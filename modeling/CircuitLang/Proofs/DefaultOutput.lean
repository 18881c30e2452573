import CircuitLang.Config
import Mathlib.Data.List.TakeWhile

/-! The output that is not given.

A path whose file name has an extension is made of parts: a directory, a stem, the dot and the
extension, and a trail of slashes and `.` components behind the name (`Path.Parts`). There is
one way to cut it so (`Path.Parts.unique`), and an extension is recognized exactly where there
is one (`Path.hasExtension_iff`).

Exchanging the extension of a source first cuts two characters off the end of the whole path,
wherever the extension stands. What is left has the same directory and stem and a shorter
extension or trail (`Path.Parts.dropLast_two`), so the stem is found again, and the output
stands next to the source (`Config.default_output_beside_source`). Only a file `..cl` with no
trail is cut down to `..`, which is no file name; its output is refused where it is given
(`Config.default_output_given`). -/
namespace CircuitLang

namespace Path

/-- Slashes with nothing or a `.` behind each, which name nothing of their own. -/
def Trail (text : List Char) : Prop :=
  ∃ components : List (List Char), (∀ c ∈ components, c = [] ∨ c = ['.']) ∧
    text = components.flatMap ('/' :: ·)

/-- The parts of a path whose file name has an extension. -/
structure Parts (p : Path) (extension : String) (directory stem trail : List Char) : Prop where
  chars : p.chars = directory ++ (stem ++ '.' :: extension.toList) ++ trail
  /-- A directory is empty or ends in a slash. -/
  directory : ∀ c ∈ directory.getLast?, c = '/'
  stem_ne : stem ≠ []
  stem_whole : '/' ∉ stem
  trail : Trail trail

/-- An extension is behind the last dot of one component. -/
def IsExtension (text : String) : Prop :=
  '.' ∉ text.toList ∧ '/' ∉ text.toList

instance (text : String) : Decidable (IsExtension text) :=
  inferInstanceAs (Decidable ('.' ∉ text.toList ∧ '/' ∉ text.toList))

/-! ### Trails -/

namespace Trail

theorem nil : Trail [] :=
  ⟨[], by simp, rfl⟩

theorem cons {component more : List Char} (hc : component = [] ∨ component = ['.'])
    (h : Trail more) : Trail ('/' :: component ++ more) := by
  obtain ⟨components, hcomponents, rfl⟩ := h
  exact ⟨component :: components, List.forall_mem_cons.mpr ⟨hc, hcomponents⟩, rfl⟩

theorem concat {component front : List Char} (hc : component = [] ∨ component = ['.'])
    (h : Trail front) : Trail (front ++ '/' :: component) := by
  obtain ⟨components, hcomponents, rfl⟩ := h
  refine ⟨components ++ [component], ?_, by simp⟩
  rw [List.forall_mem_append, List.forall_mem_singleton]
  exact ⟨hcomponents, hc⟩

theorem of_append {front back : List Char} (h : Trail (front ++ back)) : Trail front := by
  obtain ⟨components, hcomponents, htext⟩ := h
  induction components generalizing front with
  | nil =>
    rw [(List.append_eq_nil_iff.mp htext).1]
    exact nil
  | cons c more ih =>
    rw [List.forall_mem_cons] at hcomponents
    obtain ⟨hc, hmore⟩ := hcomponents
    rw [List.flatMap_cons] at htext
    rcases List.append_eq_append_iff.mp htext with ⟨rest, hfirst, -⟩ | ⟨rest, rfl, hrest⟩
    · -- The cut is within the first component.
      rcases hc with rfl | rfl
      · rcases front with _ | ⟨a, front⟩
        · exact nil
        · obtain ⟨rfl, hnil⟩ := List.cons.inj hfirst
          rw [(List.append_eq_nil_iff.mp hnil.symm).1]
          exact nil.concat (.inl rfl)
      · rcases front with _ | ⟨a, _ | ⟨b, front⟩⟩
        · exact nil
        · obtain ⟨rfl, -⟩ := List.cons.inj hfirst
          exact nil.concat (.inl rfl)
        · obtain ⟨rfl, hsecond⟩ := List.cons.inj hfirst
          obtain ⟨rfl, hnil⟩ := List.cons.inj hsecond
          rw [(List.append_eq_nil_iff.mp hnil.symm).1]
          exact nil.concat (.inr rfl)
    · exact (ih hmore hrest.symm).cons hc

end Trail

theorem dropTail_trail {trail : List Char} (h : Trail trail) (rest : List Char) :
    dropTail (trail.reverse ++ rest) = dropTail rest := by
  obtain ⟨components, hcomponents, rfl⟩ := h
  induction components generalizing rest with
  | nil => rfl
  | cons c more ih =>
    rw [List.forall_mem_cons] at hcomponents
    rw [List.flatMap_cons, List.reverse_append, List.append_assoc, ih _ hcomponents.2]
    rcases hcomponents.1 with rfl | rfl <;> rfl

/-- Nothing but a trail is dropped. -/
theorem exists_trail (reversed : List Char) :
    ∃ trail, Trail trail ∧ reversed = trail.reverse ++ dropTail reversed := by
  induction reversed using dropTail.induct with
  | case1 rest ih =>
    obtain ⟨trail, htrail, hrest⟩ := ih
    refine ⟨trail ++ ['/'], htrail.concat (.inl rfl), ?_⟩
    rw [List.reverse_append]
    exact congrArg ('/' :: ·) hrest
  | case2 rest ih =>
    obtain ⟨trail, htrail, hrest⟩ := ih
    refine ⟨trail ++ ['/', '.'], htrail.concat (.inr rfl), ?_⟩
    rw [List.reverse_append]
    exact congrArg ('.' :: '/' :: ·) hrest
  | case3 rest hslash hdot =>
    refine ⟨[], .nil, ?_⟩
    rw [dropTail.eq_3 rest hslash hdot]
    rfl

theorem dropTail_eq_self {name : List Char} (hne : name ≠ []) (hdot : name ≠ ['.'])
    (hwhole : '/' ∉ name) (rest : List Char) :
    dropTail (name.reverse ++ rest) = name.reverse ++ rest := by
  have hreverse : '/' ∉ name.reverse := by simpa using hwhole
  obtain ⟨c, more, hname⟩ := List.exists_cons_of_ne_nil (by simpa using hne : name.reverse ≠ [])
  have hsingle : more = [] → c ≠ '.' := by
    rintro rfl rfl
    exact hdot (List.reverse_eq_iff.mp hname)
  rw [hname, List.mem_cons, not_or] at hreverse
  obtain ⟨hc, hmore⟩ := hreverse
  rw [hname, List.cons_append]
  apply dropTail.eq_3
  · intro r h
    exact hc (List.cons.inj h).1.symm
  · intro r h
    obtain ⟨hdot', hrest⟩ := List.cons.inj h
    cases more with
    | nil => exact hsingle rfl hdot'
    | cons b more =>
      rw [(List.cons.inj hrest).1] at hmore
      exact hmore List.mem_cons_self

/-! ### The last component -/

section
variable {p : Path} {directory name trail : List Char}

theorem reversedBody_eq (hchars : p.chars = directory ++ name ++ trail) (htrail : Trail trail)
    (hne : name ≠ []) (hdot : name ≠ ['.']) (hwhole : '/' ∉ name) :
    p.reversedBody = name.reverse ++ directory.reverse := by
  rw [reversedBody, hchars, List.reverse_append, dropTail_trail htrail, List.reverse_append,
    dropTail_eq_self hne hdot hwhole]

/-- A name between a directory and a trail is the last component. -/
theorem component_eq (hchars : p.chars = directory ++ name ++ trail)
    (hdirectory : ∀ c ∈ directory.getLast?, c = '/') (htrail : Trail trail) (hne : name ≠ [])
    (hdot : name ≠ ['.']) (hwhole : '/' ∉ name) :
    p.directory = directory ∧ p.lastComponent = name := by
  have hname : ∀ c ∈ name.reverse, decide (c ≠ '/') = true := by
    intro c hc
    rw [decide_eq_true_iff]
    rintro rfl
    exact hwhole (List.mem_reverse.mp hc)
  have hbody := reversedBody_eq hchars htrail hne hdot hwhole
  rw [← List.head?_reverse] at hdirectory
  constructor
  · rw [Path.directory, hbody, List.dropWhile_append_of_pos hname]
    cases hreverse : directory.reverse with
    | nil => rw [List.dropWhile_nil, ← hreverse, List.reverse_reverse]
    | cons c more =>
      rw [hreverse] at hdirectory
      rw [List.dropWhile_cons_of_neg (by simp [hdirectory c rfl]), ← hreverse, List.reverse_reverse]
  · rw [lastComponent, hbody, List.takeWhile_append_of_pos hname]
    cases hreverse : directory.reverse with
    | nil => simp
    | cons c more =>
      rw [hreverse] at hdirectory
      rw [List.takeWhile_cons_of_neg (by simp [hdirectory c rfl])]
      simp

end

section
variable (p : Path)

theorem chars_eq : ∃ trail, Trail trail ∧ p.chars = p.directory ++ p.lastComponent ++ trail := by
  obtain ⟨trail, htrail, hreverse⟩ := exists_trail p.chars.reverse
  refine ⟨trail, htrail, ?_⟩
  rw [Path.directory, lastComponent, ← List.reverse_append, List.takeWhile_append_dropWhile,
    reversedBody, ← List.reverse_reverse trail, ← List.reverse_append, ← hreverse,
    List.reverse_reverse]

theorem directory_ends : ∀ c ∈ p.directory.getLast?, c = '/' := by
  intro c hc
  rw [Path.directory, List.getLast?_reverse] at hc
  have hend := List.head?_dropWhile_not (fun c => decide (c ≠ '/')) p.reversedBody
  rw [Option.mem_def.mp hc] at hend
  simpa using hend

theorem lastComponent_whole : '/' ∉ p.lastComponent := by
  intro h
  rw [lastComponent, List.mem_reverse] at h
  simpa using List.mem_takeWhile_imp h

end

/-! ### Extensions -/

/-- A file name is cut where something stands before its last dot. -/
theorem splitName_eq_iff {name stem extension : List Char} :
    splitName name = (stem, some extension) ↔
      name = stem ++ '.' :: extension ∧ stem ≠ [] ∧ '.' ∉ extension := by
  constructor
  · intro h
    unfold splitName at h
    split at h
    · rename_i c front hdrop
      obtain ⟨rfl, hextension⟩ := Prod.mk.inj h
      refine ⟨?_, by simp, ?_⟩
      · have hname := List.takeWhile_append_dropWhile (p := (· ≠ '.')) (l := name.reverse)
        rw [hdrop, eq_comm, List.reverse_eq_iff, List.reverse_append, List.reverse_cons,
          List.append_assoc] at hname
        rw [← Option.some.inj hextension]
        exact hname
      · rw [← Option.some.inj hextension, List.mem_reverse]
        intro hdot
        simpa using List.mem_takeWhile_imp hdot
    · cases h
  · intro h
    obtain ⟨rfl, hstem, hdot⟩ := h
    have hpass : ∀ c ∈ extension.reverse, decide (c ≠ '.') = true := by
      intro c hc
      rw [decide_eq_true_iff]
      rintro rfl
      exact hdot (List.mem_reverse.mp hc)
    have hreverse : (stem ++ '.' :: extension).reverse = extension.reverse ++ '.' :: stem.reverse := by
      simp
    obtain ⟨c, front, hfront⟩ := List.exists_cons_of_ne_nil (by simpa using hstem : stem.reverse ≠ [])
    have hdrop : ((stem ++ '.' :: extension).reverse.dropWhile fun c => decide (c ≠ '.')) =
        '.' :: c :: front := by
      rw [hreverse, List.dropWhile_append_of_pos hpass, List.dropWhile_cons_of_neg (by simp), hfront]
    have htake : ((stem ++ '.' :: extension).reverse.takeWhile fun c => decide (c ≠ '.')) =
        extension.reverse := by
      rw [hreverse, List.takeWhile_append_of_pos hpass, List.takeWhile_cons_of_neg (by simp),
        List.append_nil]
    simp only [splitName, hdrop, htake, List.reverse_reverse]
    rw [← hfront, List.reverse_reverse]

namespace Parts
variable {p : Path} {extension : String} {directory stem trail : List Char}

theorem component (h : p.Parts extension directory stem trail) (hextension : IsExtension extension) :
    p.directory = directory ∧ p.lastComponent = stem ++ '.' :: extension.toList := by
  apply component_eq h.chars h.directory h.trail
  · simp
  · intro hname
    have hlength := congrArg List.length hname
    have hpos := List.length_pos_iff.mpr h.stem_ne
    simp only [List.length_append, List.length_cons, List.length_nil] at hlength
    omega
  · simp [h.stem_whole, hextension.2]

theorem splitName_eq (h : p.Parts extension directory stem trail)
    (hextension : IsExtension extension) :
    splitName p.lastComponent = (stem, some extension.toList) := by
  rw [(h.component hextension).2, splitName_eq_iff]
  exact ⟨rfl, h.stem_ne, hextension.1⟩

/-- The last component names a file unless it is `..`. -/
theorem fileName?_eq (h : p.Parts extension directory stem trail)
    (hextension : IsExtension extension) (hname : ¬ (stem = ['.'] ∧ extension = "")) :
    p.fileName? = some p.lastComponent := by
  rw [fileName?, if_neg]
  rw [(h.component hextension).2]
  intro hmem
  simp only [List.mem_cons, List.not_mem_nil, or_false] at hmem
  obtain ⟨c, front, rfl⟩ := List.exists_cons_of_ne_nil h.stem_ne
  rcases hmem with hmem | hmem | hmem
  · simp at hmem
  · simp at hmem
  · apply hname
    rw [List.cons_append] at hmem
    obtain ⟨rfl, hmem⟩ := List.cons.inj hmem
    cases front with
    | nil =>
      obtain ⟨-, hnil⟩ := List.cons.inj hmem
      exact ⟨rfl, String.toList_eq_nil_iff.mp (List.cons.inj hnil).2⟩
    | cons b front => simp at hmem

/-- A path is cut into parts in one way. -/
theorem unique {directory' stem' trail' : List Char} (h : p.Parts extension directory stem trail)
    (h' : p.Parts extension directory' stem' trail') (hextension : IsExtension extension) :
    directory' = directory ∧ stem' = stem ∧ trail' = trail := by
  have hdirectory : directory' = directory :=
    (h'.component hextension).1.symm.trans (h.component hextension).1
  have hstem : stem' = stem :=
    congrArg Prod.fst ((h'.splitName_eq hextension).symm.trans (h.splitName_eq hextension))
  refine ⟨hdirectory, hstem, ?_⟩
  have hchars := h'.chars.symm.trans h.chars
  rw [hdirectory, hstem] at hchars
  exact List.append_cancel_left hchars

/-- A new extension is put behind the stem, whatever stands there. -/
theorem setExtension_eq (h : p.Parts extension directory stem trail)
    (hextension : IsExtension extension) (hname : ¬ (stem = ['.'] ∧ extension = ""))
    (ext : String) : p.setExtension ext = ⟨directory ++ (stem ++ '.' :: ext.toList)⟩ := by
  rw [setExtension, h.fileName?_eq hextension hname]
  simp only [h.splitName_eq hextension, (h.component hextension).1, List.append_assoc]

theorem fileName?_of_up (h : p.Parts "" directory ['.'] trail) : p.fileName? = none := by
  rw [fileName?, (h.component (by decide)).2]
  rfl

theorem setExtension_of_up (h : p.Parts "" directory ['.'] trail) (ext : String) :
    p.setExtension ext = p := by
  rw [setExtension, h.fileName?_of_up]

/-- Two characters less at the end leave directory and stem as they are: they are taken from
the trail, and from the extension as far as the trail is too short. -/
theorem dropLast_two (h : p.Parts "cl" directory stem trail) :
    ∃ extension trail', IsExtension extension ∧ (p.dropLast 2).Parts extension directory stem trail' ∧
      (extension = "" ↔ trail = []) ∧ (extension = "" → trail' = []) := by
  have hchars := h.chars
  have hparts {extension : String} {trail' : List Char} (cut : List Char) (hcut : cut.length = 2)
      (hchars : p.chars = (directory ++ (stem ++ '.' :: extension.toList) ++ trail') ++ cut)
      (htrail : Trail trail') : (p.dropLast 2).Parts extension directory stem trail' := by
    refine ⟨?_, h.directory, h.stem_ne, h.stem_whole, htrail⟩
    show p.chars.take (p.chars.length - 2) = _
    rw [hchars, List.length_append, hcut, Nat.add_sub_cancel, List.take_left]
  rcases trail with _ | ⟨a, _ | ⟨b, more⟩⟩
  · refine ⟨"", [], by decide, hparts ['c', 'l'] rfl ?_ .nil, by simp, fun _ => rfl⟩
    rw [hchars]
    simp
  · refine ⟨"c", [], by decide, hparts ['l', a] rfl ?_ .nil, by simp, by simp⟩
    rw [hchars]
    simp
  · have hcut : (a :: b :: more).take more.length ++ (a :: b :: more).drop more.length =
        a :: b :: more := List.take_append_drop ..
    refine ⟨"cl", (a :: b :: more).take more.length, by decide,
      hparts ((a :: b :: more).drop more.length) ?_ ?_ ?_, by simp, by simp⟩
    · rw [List.length_drop, List.length_cons, List.length_cons]
      omega
    · rw [hchars, List.append_assoc _ (List.take ..), hcut]
    · exact .of_append (hcut.symm ▸ h.trail)

end Parts

/-- **A path has an extension exactly when it is cut into parts with it.** -/
theorem hasExtension_iff {p : Path} {extension : String} (hextension : IsExtension extension)
    (hne : extension ≠ "") :
    p.hasExtension extension = true ↔
      ∃ directory stem trail, p.Parts extension directory stem trail := by
  rw [hasExtension, beq_iff_eq]
  constructor
  · intro h
    obtain ⟨name, hname, hsplit⟩ := Option.bind_eq_some_iff.mp h
    rw [fileName?, Option.ite_none_left_eq_some] at hname
    obtain rfl := Option.some.inj hname.2
    have hcut : splitName p.lastComponent =
        ((splitName p.lastComponent).1, some extension.toList) := Prod.ext rfl hsplit
    obtain ⟨hname, hstem, -⟩ := splitName_eq_iff.mp hcut
    obtain ⟨trail, htrail, hchars⟩ := p.chars_eq
    have hwhole := p.lastComponent_whole
    rw [hname] at hchars hwhole
    exact ⟨p.directory, _, trail, hchars, p.directory_ends, hstem,
      fun hslash => hwhole (List.mem_append_left _ hslash), htrail⟩
  · intro h
    obtain ⟨directory, stem, trail, h⟩ := h
    rw [extension?, h.fileName?_eq hextension fun hempty => hne hempty.2]
    show (splitName p.lastComponent).2 = _
    rw [h.splitName_eq hextension]

namespace Parts
variable {p : Path} {directory stem trail : List Char}

theorem length_extension? (h : p.Parts "cl" directory stem trail) :
    (p.extension?.getD []).length = 2 := by
  have hextension := (hasExtension_iff (by decide) (by decide)).mpr ⟨_, _, _, h⟩
  rw [hasExtension, beq_iff_eq] at hextension
  rw [hextension]
  rfl

/-- The extension `cl` is exchanged where it stands, unless that leaves a file name `..`. -/
theorem withExtension_eq (h : p.Parts "cl" directory stem trail)
    (hname : ¬ (stem = ['.'] ∧ trail = [])) (ext : String) :
    p.withExtension ext = ⟨directory ++ (stem ++ '.' :: ext.toList)⟩ := by
  obtain ⟨extension, trail', hextension, hcut, hempty, -⟩ := h.dropLast_two
  rw [withExtension, h.length_extension?]
  exact hcut.setExtension_eq hextension (by rwa [hempty]) ext

theorem withExtension_of_up (h : p.Parts "cl" directory ['.'] []) (ext : String) :
    p.withExtension ext = ⟨directory ++ ['.', '.']⟩ := by
  obtain ⟨extension, trail', -, hcut, hempty, htrail⟩ := h.dropLast_two
  obtain rfl := hempty.mpr rfl
  obtain rfl := htrail rfl
  rw [withExtension, h.length_extension?, hcut.setExtension_of_up]
  have hchars := hcut.chars
  rw [List.append_nil] at hchars
  exact congrArg Path.mk hchars

end Parts

end Path

namespace Config
variable {p : Path} {directory stem trail : List Char}

theorem choose_of_parts (h : p.Parts "cl" directory stem trail) (output? : Option Path)
    (options : Options) :
    choose (some p) output? options =
      (settleOutput p output?).map fun output => ⟨p, output, options⟩ := by
  have hextension : p.hasExtension sourceExtension = true :=
    (Path.hasExtension_iff (by decide) (by decide)).mpr ⟨_, _, _, h⟩
  simp only [choose, hextension, if_true]

theorem choose_default_eq_ok_iff {options : Options} {c : Config} :
    choose (some p) none options = .ok c ↔
      (∃ directory stem trail, p.Parts "cl" directory stem trail) ∧
        c = ⟨p, p.withExtension "asm", options⟩ := by
  constructor
  · intro h
    by_cases hextension : p.hasExtension sourceExtension = true
    · obtain ⟨directory, stem, trail, hparts⟩ :=
        (Path.hasExtension_iff (by decide) (by decide)).mp hextension
      rw [choose_of_parts hparts] at h
      exact ⟨⟨directory, stem, trail, hparts⟩, (Except.ok.inj h).symm⟩
    · simp only [choose, hextension] at h
      cases h
  · intro h
    obtain ⟨⟨directory, stem, trail, hparts⟩, rfl⟩ := h
    exact choose_of_parts hparts none options

/-- **The default output stands next to the source.** A source is accepted without an output
exactly when it is a directory, a stem, `.cl`, and a trail, which it is in one way. The output
is the directory, the stem and `.asm`, unless the file is `..cl` with no trail. -/
theorem default_output_beside_source (p : Path) (options : Options) :
    ((∃ c, choose (some p) none options = .ok c) ↔
        ∃ directory stem trail, p.Parts "cl" directory stem trail) ∧
      ∀ directory stem trail, p.Parts "cl" directory stem trail →
        (∀ directory' stem' trail', p.Parts "cl" directory' stem' trail' →
            directory' = directory ∧ stem' = stem ∧ trail' = trail) ∧
          (¬ (stem = ['.'] ∧ trail = []) →
            choose (some p) none options =
              .ok ⟨p, ⟨directory ++ stem ++ ".asm".toList⟩, options⟩) := by
  constructor
  · simp [choose_default_eq_ok_iff]
  · intro directory stem trail h
    refine ⟨fun _ _ _ h' => h.unique h' (by decide), fun hname => ?_⟩
    rw [choose_default_eq_ok_iff, h.withExtension_eq hname, List.append_assoc]
    exact ⟨⟨directory, stem, trail, h⟩, rfl⟩

/-- A dotted stem, and a trail of two components. -/
theorem default_output_behind_trail :
    let p := Path.ofString "x/..cl/./"
    p.Parts "cl" "x/".toList ['.'] "/./".toList ∧ ¬ (['.'] = ['.'] ∧ "/./".toList = []) ∧
      choose (some p) none {} = .ok ⟨p, ⟨"x/".toList ++ ['.'] ++ ".asm".toList⟩, {}⟩ := by
  intro p
  have hparts : p.Parts "cl" "x/".toList ['.'] "/./".toList :=
    ⟨by decide, fun _ hc => (Option.some.inj hc).symm, by decide, by decide,
      ⟨[['.'], []], by simp, by decide⟩⟩
  have hname : ¬ (['.'] = ['.'] ∧ "/./".toList = []) := by decide
  exact ⟨hparts, hname, ((default_output_beside_source p {}).2 _ _ _ hparts).2 hname⟩

theorem choose_given_of_parts (h : p.Parts "cl" directory stem trail)
    (hname : ¬ (stem = ['.'] ∧ trail = [])) (options : Options) :
    choose (some p) (some (p.withExtension "asm")) options =
      .ok ⟨p, p.withExtension "asm", options⟩ := by
  have houtput := h.withExtension_eq hname "asm"
  have hparts : (p.withExtension "asm").Parts outputExtension directory stem [] :=
    ⟨by rw [houtput]; simp [outputExtension], h.directory, h.stem_ne, h.stem_whole, .nil⟩
  have hextension : (p.withExtension "asm").hasExtension outputExtension = true :=
    (Path.hasExtension_iff (by decide) (by decide)).mpr ⟨_, _, _, hparts⟩
  rw [choose_of_parts h]
  simp only [settleOutput, hextension, if_true]
  rfl

theorem choose_given_of_up (h : p.Parts "cl" directory ['.'] []) (options : Options) :
    choose (some p) (some (p.withExtension "asm")) options =
      .error (.wrongOutputExtension (p.withExtension "asm")) := by
  have houtput := h.withExtension_of_up "asm"
  have hparts : (p.withExtension "asm").Parts "" directory ['.'] [] :=
    ⟨by rw [houtput]; simp, h.directory, by simp, by decide, .nil⟩
  have hextension : (p.withExtension "asm").hasExtension outputExtension = false := by
    rw [Path.hasExtension, Path.extension?, hparts.fileName?_of_up]
    rfl
  rw [choose_of_parts h]
  simp only [settleOutput, hextension]
  rfl

/-- **A default output is accepted where it is given, but for one file name.** If a source is
accepted without an output, giving the output that it has then leads to the same choice,
unless the source is a file `..cl` with no trail. The output of that one is the directory
above, which is refused. -/
theorem default_output_given {options : Options} {c : Config}
    (h : choose (some p) none options = .ok c) :
    (choose (some p) (some c.output) options = .ok c ↔
        ∀ directory, ¬ p.Parts "cl" directory ['.'] []) ∧
      ∀ directory, p.Parts "cl" directory ['.'] [] →
        c.output = ⟨directory ++ "..".toList⟩ ∧
          choose (some p) (some c.output) options = .error (.wrongOutputExtension c.output) := by
  obtain ⟨⟨directory, stem, trail, hparts⟩, rfl⟩ := choose_default_eq_ok_iff.mp h
  refine ⟨⟨fun hgiven directory hup => ?_, fun hname => ?_⟩, fun directory hup => ?_⟩
  · rw [choose_given_of_up hup] at hgiven
    cases hgiven
  · apply choose_given_of_parts hparts
    rintro ⟨rfl, rfl⟩
    exact hname directory hparts
  · exact ⟨hup.withExtension_of_up "asm", choose_given_of_up hup options⟩

/-- A file in a directory whose name is dots up to the extension. -/
theorem default_output_given_of_dots :
    let p := Path.ofString "x/..cl"
    let c : Config := ⟨p, Path.ofString "x/..", {}⟩
    choose (some p) none {} = .ok c ∧ p.Parts "cl" "x/".toList ['.'] [] ∧
      choose (some p) (some c.output) {} = .error (.wrongOutputExtension c.output) := by
  intro p c
  have hchosen : choose (some p) none {} = .ok c := by decide
  have hparts : p.Parts "cl" "x/".toList ['.'] [] :=
    ⟨by decide, fun _ hc => (Option.some.inj hc).symm, by decide, by decide, .nil⟩
  exact ⟨hchosen, hparts, ((default_output_given hchosen).2 _ hparts).2⟩

/-- A source can be accepted and its default output be refused. -/
theorem default_output_refused :
    ¬ ∀ (p : Path) (options : Options) (c : Config), choose (some p) none options = .ok c →
      choose (some p) (some c.output) options = .ok c := by
  intro h
  let p := Path.ofString "..cl"
  have hgiven := h p {} ⟨p, Path.ofString "..", {}⟩ (by decide)
  exact absurd hgiven (by decide)

end Config

end CircuitLang
