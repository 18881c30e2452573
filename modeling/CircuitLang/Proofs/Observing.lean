import CircuitLang.Proofs.Command
import Mathlib.Data.List.Basic

/-! What can be watched of a run, and what watching changes.

A verbosity and a written filter only choose which records are shown; the session they
come from does not know of either. The listings are the other way to watch, and those are
stages of the session itself. So sessions are compared without what they print
(`Session.muted`), and then a listing is no stage at all (`Session.muted_list`): with any
listings a run has the same records and the same result (`Session.muted_run`).

`watching_changes_nothing` puts this together for what the command leaves behind. Besides
the records, one thing on the error stream depends on a written filter: the warnings about
what is unclear in it (`unclear_filter_is_noticed`). -/
namespace CircuitLang

/-! ### More verbosity, more records -/

namespace Log.Filter

theorem rank_verbosity (n : Nat) : (verbosity n).rank = min (n + 2) 5 := by
  match n with
  | 0 | 1 | 2 => rfl
  | n + 3 =>
    show 5 = min (n + 3 + 2) 5
    omega

theorem admits_ofVerbosity_iff {n : Nat} {r : Record} :
    (ofVerbosity n).admits r = true ↔ r.level.rank ≤ (verbosity n).rank := by
  simp [admits, ofVerbosity, threshold, Threshold.admits]

theorem admits_ofVerbosity_succ {n : Nat} {r : Record} (h : (ofVerbosity n).admits r = true) :
    (ofVerbosity (n + 1)).admits r = true := by
  rw [admits_ofVerbosity_iff, rank_verbosity] at h ⊢
  omega

end Log.Filter

namespace Session
variable {α β ε : Type}

/-! ### Sessions without what they print -/

/-- The session that writes the same records and nothing else. -/
def muted (s : Session α) : Session α :=
  ⟨s.records.map .record, s.result⟩

theorem muted_of_records (records : List Log.Record) (result : Except Failure α) :
    muted ⟨records.map Note.record, result⟩ = ⟨records.map Note.record, result⟩ := by
  simp [muted, Session.records, List.filterMap_map]

theorem records_muted (s : Session α) : s.muted.records = s.records := by
  simp [muted, records, List.filterMap_map]

theorem result_muted (s : Session α) : s.muted.result = s.result := rfl

theorem muted_bind (s : Session α) (f : α → Session β) :
    (s >>= f).muted = s.muted >>= fun a => (f a).muted := by
  cases h : s.result with
  | ok a =>
    rw [bind_of_ok f h, bind_of_ok _ (show s.muted.result = .ok a from h)]
    simp [muted, records]
  | error e =>
    rw [bind_of_error f h, bind_of_error _ (show s.muted.result = .error e from h)]
    rfl

@[simp] theorem muted_log (level : Log.Level) (text : String) :
    (log level text).muted = log level text := rfl

@[simp] theorem muted_ofExcept (failure : ε → Failure) (value : Except ε α) :
    (ofExcept failure value).muted = ofExcept failure value := rfl

@[simp] theorem muted_tokens (source : String) : (tokens source).muted = tokens source :=
  muted_of_records ..

@[simp] theorem muted_program (options : Options) (tokens : List Token) :
    (program options tokens).muted = program options tokens :=
  muted_of_records ..

@[simp] theorem muted_list (title : String) (items : List String) :
    (list title items).muted = ⟨[], .ok ()⟩ := rfl

/-- Behind a stage that does nothing a session is what follows. -/
theorem idle_bind (f : Unit → Session α) : (⟨[], .ok ()⟩ : Session Unit) >>= f = f () := rfl

end Session

/-! ### Other observations of the same run -/

namespace CommandLine.Invocation

/-- The same, asked with another verbosity. -/
def verbose (i : Invocation) (n : Nat) : Invocation :=
  { i with verbosity := n }

/-- The same, asked for other listings. -/
def listing (i : Invocation) (tokens ast : Bool) : Invocation :=
  { i with printTokens := tokens, printAst := ast }

end CommandLine.Invocation

namespace Session
variable (i : CommandLine.Invocation) (read : Path → Except ReadError String)

/-- A session does not know how much of it is shown. -/
theorem run_verbose (n : Nat) : run (i.verbose n) read = run i read := rfl

/-- Without what it prints a run is the run without any listing. -/
theorem muted_run_eq_unlisted : (run i read).muted = run (i.listing false false) read := by
  -- Whatever listings were asked for, the stages that are left once they are muted are the same.
  cases htokens : i.printTokens <;> cases hast : i.printAst <;>
    · simp only [run, muted_bind, muted_log, muted_ofExcept, muted_tokens, muted_program,
        muted_list, idle_bind, htokens, hast, if_true, Bool.false_eq_true, if_false]
      rfl

/-- But for what they print, runs with different listings are the same. -/
theorem muted_run (tokens ast : Bool) :
    (run (i.listing tokens ast) read).muted = (run i read).muted := by
  rw [muted_run_eq_unlisted, muted_run_eq_unlisted]
  rfl

theorem records_run_listing (tokens ast : Bool) :
    (run (i.listing tokens ast) read).records = (run i read).records := by
  rw [← records_muted, muted_run, records_muted]

theorem result_run_listing (tokens ast : Bool) :
    (run (i.listing tokens ast) read).result = (run i read).result := by
  rw [← result_muted, muted_run, result_muted]

end Session

namespace CommandLine.Invocation
variable (i : Invocation) (read : Path → Except ReadError String)

theorem shown_listing (written? : Option String) (tokens ast : Bool) :
    (i.listing tokens ast).shown written? read = i.shown written? read := by
  rw [shown, Session.records_run_listing]
  rfl

/-- Without a written filter more verbosity leaves out none of the records. -/
theorem shown_verbose_sublist (n : Nat) :
    ((i.verbose n).shown none read).Sublist ((i.verbose (n + 1)).shown none read) := by
  simp only [shown, Session.run_verbose]
  exact List.monotone_filter_right _ fun _ => Log.Filter.admits_ofVerbosity_succ

end CommandLine.Invocation

namespace Outcome
variable {args : List String} {i : CommandLine.Invocation}

/-- **Watching a run changes nothing.** Other verbosities and written filters leave the same
exit code, the same output, and behind the log the same lines about an error. Without a
written filter, each `-v` more only adds records. And other listings leave the same exit code
and the same error stream, the log with it. -/
theorem watching_changes_nothing (read : Path → Except ReadError String)
    (hargs : CommandLine.parse args = .ok (.run i)) :
    (∀ args' n written? written?', CommandLine.parse args' = .ok (.run (i.verbose n)) →
      (ofCommand args' written?' read).exitCode = (ofCommand args written? read).exitCode ∧
        (ofCommand args' written?' read).stdout = (ofCommand args written? read).stdout ∧
        ∃ diagnostics,
          (ofCommand args written? read).stderr =
            logText written? (i.shown written? read) ++ diagnostics ∧
          (ofCommand args' written?' read).stderr =
            logText written?' ((i.verbose n).shown written?' read) ++ diagnostics) ∧
      (∀ n, ((i.verbose n).shown none read).Sublist ((i.verbose (n + 1)).shown none read)) ∧
      ∀ args' tokens ast written?, CommandLine.parse args' = .ok (.run (i.listing tokens ast)) →
        (ofCommand args' written? read).exitCode = (ofCommand args written? read).exitCode ∧
          (ofCommand args' written? read).stderr = (ofCommand args written? read).stderr := by
  refine ⟨fun args' n written? written?' hargs' => ?_, i.shown_verbose_sublist read,
    fun args' tokens ast written? hargs' => ?_⟩
  · rw [ofCommand_of_run _ hargs, ofCommand_of_run _ hargs', Session.run_verbose]
    exact ⟨rfl, rfl, _, rfl, rfl⟩
  · rw [ofCommand_of_run _ hargs, ofCommand_of_run _ hargs', Session.diagnostics, Session.diagnostics,
      Session.result_run_listing, i.shown_listing]
    exact ⟨rfl, rfl⟩

/-- A text with a tail that is dropped, watched in three ways. -/
theorem watching_changes_nothing_of_tail :
    let i : CommandLine.Invocation := ⟨⟨"a.cl".toList⟩, none, true, false, false, false, 0⟩
    let plain := ["a.cl", "--lenient"]
    let verbose := ["a.cl", "--lenient", "-vv"]
    let listing := ["a.cl", "--print-ast", "--lenient"]
    let read : Path → Except ReadError String := fun _ => .ok "a : 1;\nb"
    CommandLine.parse plain = .ok (.run i) ∧
      CommandLine.parse verbose = .ok (.run (i.verbose 2)) ∧
      CommandLine.parse listing = .ok (.run (i.listing false true)) ∧
      (ofCommand verbose (some "trace,clc=loud") read).exitCode = 0 ∧
      (ofCommand verbose (some "trace,clc=loud") read).stdout = "" ∧
      (ofCommand listing none read).stderr =
        "[WARN  clc::frontend::segmenter] dropping unterminated statement 2 starting at 2:1\n" := by
  intro i plain verbose listing read
  have hplain : CommandLine.parse plain = .ok (.run i) := rfl
  have hverbose : CommandLine.parse verbose = .ok (.run (i.verbose 2)) := rfl
  have hlisting : CommandLine.parse listing = .ok (.run (i.listing false true)) := rfl
  obtain ⟨hverbosities, -, hlistings⟩ := watching_changes_nothing read hplain
  obtain ⟨hexit, hprinted, -⟩ := hverbosities verbose 2 none (some "trace,clc=loud") hverbose
  obtain ⟨-, hlogged⟩ := hlistings listing false true none hlisting
  refine ⟨hplain, hverbose, hlisting, hexit.trans ?_, hprinted.trans ?_, hlogged.trans ?_⟩
  · decide +kernel
  · decide +kernel
  · decide +kernel

/-- Two runs that show no record, with nothing else on the error stream of the one and a
warning on that of the other. -/
theorem unclear_filter_is_noticed :
    let args := ["a.cl"]
    let i : CommandLine.Invocation := ⟨⟨"a.cl".toList⟩, none, false, false, false, false, 0⟩
    let read : Path → Except ReadError String := fun _ => .ok "a : 1;\n"
    CommandLine.parse args = .ok (.run i) ∧
      i.shown none read = [] ∧ i.shown (some "clc=loud") read = [] ∧
      (ofCommand args none read).stderr = "" ∧
      (ofCommand args (some "clc=loud") read).stderr =
        "warning: invalid logging spec 'loud', ignoring it\n" := by
  intro args i read
  refine ⟨rfl, ?_, ?_, ?_, ?_⟩
  · decide +kernel
  · decide +kernel
  · decide +kernel
  · decide +kernel

end Outcome

end CircuitLang
