import CircuitLang.Text.Pattern.Automaton
import CircuitLang.Text.Pattern.Meaning
import CircuitLang.Text.Pattern.Reading
import CircuitLang.Text.Pattern.Words

/-! Written patterns.

A written pattern is read, then turned into what it stands for. It is refused then if
it needs automata and one of them would be too large. -/
namespace CircuitLang.Text.Pattern

/-- Refuses a pattern whose automaton is too large. -/
def checkRoom (d : Direction) (p : Pattern) : Except Fault Unit :=
  if (automaton? d p).isSome then .ok () else .error .tooLarge

/-- Refuses a pattern that needs automata which cannot be built. -/
def checkAutomata (p : Pattern) : Except Fault Unit := do
  if p.isFewWords then return
  checkRoom .forward p
  if p.asksWideWords then throw .wideWord
  checkRoom .backward p

def read (source : List Char) : Except Fault Pattern := do
  let form ← Form.read source
  let (p, _) ← form.meaning {}
  checkAutomata p
  return p

end CircuitLang.Text.Pattern
