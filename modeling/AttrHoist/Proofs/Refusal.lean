import AttrHoist.Command.Run

/-!
# Calls that are refused

The checks of a call stand in one line: the arguments, the filter, then for each file its language and its contents.
The first of them that stops the call decides what becomes of it. A call is refused just when this one refuses it. It
then says what this check says, and does nothing else. How arguments are read, filters judged and files read does not
matter for this, so it holds in every dialect.
-/

namespace AttrHoist

namespace Command

/-! ## The checks -/

/-- How the filter stops a call. -/
def Dialect.filterStop? (d : Dialect) (a : Arguments) : Option Stop :=
  match d.filter a.propRegex with
  | .passed _ => none
  | .refused reason => some (.refused ("invalid --prop-regex: " ++ reason))
  | .broken fault => some (.broken fault)

/-- How the language of a file stops a call. One that the arguments name is right for every file. -/
def languageStop? (a : Arguments) (file : String) : Option Stop :=
  match a.language, Language.ofPath file with
  | none, .error _ => some (.refused ("Unsupported file extension for hoisting: " ++ file))
  | _, _ => none

/-- How the contents of a file stop a call. -/
def readStop? (read : Path → Except ReadFault ByteArray) (file : String) : Option Stop :=
  match read (Path.ofText file) >>= readText with
  | .ok _ => none
  | .error fault => some (.refused (fault.message (Path.ofText file)))

/-- What the two checks of a file come to. -/
def fileStops (read : Path → Except ReadFault ByteArray) (a : Arguments) (file : String) : List (Option Stop) :=
  [languageStop? a file, readStop? read file]

/-- What the checks after that of the arguments come to, in their order. -/
def Dialect.stops (d : Dialect) (read : Path → Except ReadFault ByteArray) (a : Arguments) : List (Option Stop) :=
  d.filterStop? a :: a.files.flatMap (fileStops read a)

/-- How the first check that stops a call does so. -/
def Dialect.firstStop? (d : Dialect) (read : Path → Except ReadFault ByteArray) (argv : List String) : Option Stop :=
  match d.arguments argv with
  | .error stop => some stop
  | .ok a => (d.stops read a).findSome? id

/-! ## Preparing makes the checks -/

section
variable (d : Dialect) (read : Path → Except ReadFault ByteArray) (a : Arguments)

/-- `Settles stops x`: the work `x` ends with the first of the stops, and succeeds if there is none. -/
def Settles {α : Type} (stops : List (Option Stop)) (x : Except Stop α) : Prop :=
  (∃ stop, stops.findSome? id = some stop ∧ x = .error stop) ∨ stops.findSome? id = none ∧ ∃ r, x = .ok r

theorem Settles.ok {α : Type} (r : α) : Settles [] (.ok r) := Or.inr ⟨rfl, r, rfl⟩

theorem Settles.bind {α β : Type} {ss ts : List (Option Stop)} {x : Except Stop α} {f : α → Except Stop β}
    (h : Settles ss x) (h' : ∀ r, Settles ts (f r)) : Settles (ss ++ ts) (x >>= f) := by
  rw [Settles, List.findSome?_append]
  rcases h with ⟨stop, hs, rfl⟩ | ⟨hs, r, rfl⟩
  · rw [hs]
    exact Or.inl ⟨stop, rfl, rfl⟩
  · rw [hs]
    exact h' r

theorem message?_of_ofPath {file : String} {fault : Fault} (h : Language.ofPath file = .error fault) :
    fault.message? = some ("Unsupported file extension for hoisting: " ++ file) := by
  delta Language.ofPath at h
  generalize Language.ofExtension? _ = language at h
  cases language with
  | some l => cases h
  | none => cases h; rfl

/-- A file of this name is hoisted as a source in the language `l`. -/
def IsLanguage (a : Arguments) (file : String) (l : Language) : Prop :=
  a.language = some l ∨ a.language = none ∧ Language.ofPath file = .ok l

/-- The language is looked at before the file is read. -/
theorem readInput_cases (file : String) :
    (languageStop? a file = none ∧ ∃ l, IsLanguage a file l ∧ readInput read a.language file =
      match read (Path.ofText file) >>= readText with
      | .ok source => .ok ⟨Path.ofText file, l, source⟩
      | .error fault => .error (.refused (fault.message (Path.ofText file)))) ∨
    ∃ stop, languageStop? a file = some stop ∧ readInput read a.language file = .error stop := by
  delta IsLanguage languageStop? readInput
  cases a.language with
  | some l => exact Or.inl ⟨rfl, l, Or.inl rfl, rfl⟩
  | none =>
      cases hl : Language.ofPath file with
      | ok l => exact Or.inl ⟨rfl, l, Or.inr ⟨rfl, rfl⟩, rfl⟩
      | error fault =>
          refine Or.inr ⟨_, rfl, ?_⟩
          show (.error (.refused (fault.message?.getD "")) : Except Stop Input) = _
          rw [message?_of_ofPath hl]
          rfl

theorem settles_readInput (file : String) :
    Settles (fileStops read a file) (readInput read a.language file) := by
  rw [fileStops]
  rcases readInput_cases read a file with ⟨hs, l, _, hr⟩ | ⟨stop, hs, hr⟩
  · rw [hs, hr, readStop?]
    cases read (Path.ofText file) >>= readText with
    | ok source => exact Or.inr ⟨rfl, _, rfl⟩
    | error fault => exact Or.inl ⟨_, rfl, rfl⟩
  · rw [hs, hr]
    exact Or.inl ⟨stop, rfl, rfl⟩

theorem settles_mapM {α β : Type} {f : α → Except Stop β} {ss : α → List (Option Stop)} (as : List α)
    (h : ∀ x, Settles (ss x) (f x)) : Settles (as.flatMap ss) (as.mapM f) := by
  induction as with
  | nil => exact .ok []
  | cons x as ih =>
      rw [List.mapM_cons, List.flatMap_cons]
      refine (h x).bind fun r => ?_
      rw [← List.append_nil (as.flatMap ss)]
      exact ih.bind fun rs => .ok (r :: rs)

theorem settles_filterOptions : Settles [d.filterStop? a] (filterOptions (d.filter a.propRegex)) := by
  rw [Dialect.filterStop?]
  cases d.filter a.propRegex with
  | passed options => exact Or.inr ⟨rfl, options, rfl⟩
  | refused reason => exact Or.inl ⟨_, rfl, rfl⟩
  | broken fault => exact Or.inl ⟨_, rfl, rfl⟩

theorem settles_prepare : Settles (d.stops read a) (d.prepare read a) := by
  have hfiles (options : Options) : Settles (a.files.flatMap (fileStops read a))
      (a.files.mapM (readInput read a.language) >>= fun inputs => .ok (options, inputs)) := by
    rw [← List.append_nil (a.files.flatMap (fileStops read a))]
    exact (settles_mapM a.files (settles_readInput read a)).bind fun inputs => .ok (options, inputs)
  exact (settles_filterOptions d a).bind hfiles

end

/-! ## Refusals -/

theorem Stop.status_outcome (stop : Stop) : stop.outcome.status = 2 ↔ ∃ text, stop = .refused text := by
  cases stop with
  | help => exact iff_of_false (by decide) nofun
  | refused text => exact iff_of_true rfl ⟨text, rfl⟩
  | broken fault => exact iff_of_false (by simp [outcome]) nofun

theorem status_process (g : Grammar) (options : Options) (a : Arguments) (inputs : List Input) (o : Outcome)
    (h : o.status = 0) : (process g options a inputs o).status ≠ 2 := by
  induction inputs generalizing o with
  | nil => rw [process, h]; decide
  | cons i inputs ih =>
      rw [process]
      split
      · refine ih _ ?_
        rw [deliver]
        split
        · split
          · exact h
          · exact h
        · exact h
      · exact (by decide : (1 : Nat) ≠ 2)

section
variable {d : Dialect} {g : Grammar} {read : Path → Except ReadFault ByteArray} {argv : List String}

theorem run_cases : (∃ stop, d.firstStop? read argv = some stop ∧ d.run g read argv = stop.outcome) ∨
    d.firstStop? read argv = none ∧ (d.run g read argv).status ≠ 2 := by
  rw [Dialect.firstStop?, Dialect.run]
  cases d.arguments argv with
  | error stop => exact Or.inl ⟨stop, rfl, rfl⟩
  | ok a =>
      rcases settles_prepare d read a with ⟨stop, hs, hp⟩ | ⟨hs, ⟨options, inputs⟩, hp⟩
      · exact Or.inl ⟨stop, hs, by simp only [hp]⟩
      · refine Or.inr ⟨hs, ?_⟩
        simp only [hp]
        exact status_process g options a inputs _ rfl

theorem run_of_firstStop? {stop : Stop} (h : d.firstStop? read argv = some stop) :
    d.run g read argv = stop.outcome := by
  rcases run_cases with ⟨stop', hs, hr⟩ | ⟨hs, _⟩
  · rw [hs] at h
    cases h
    exact hr
  · rw [hs] at h
    cases h

theorem status_run :
    (d.run g read argv).status = 2 ↔ ∃ text, d.firstStop? read argv = some (.refused text) := by
  rcases run_cases with ⟨stop, hs, hr⟩ | ⟨hs, hne⟩
  · rw [hr, hs, stop.status_outcome]
    simp only [Option.some.injEq]
  · rw [hs]
    exact iff_of_false hne nofun

end

/-- However arguments are read, filters judged and files read, a call ends with status 2 exactly when the first check
that stops it refuses it. It then prints nothing, reports what this check says, and has no files to write, so that a
file system is after the call what it was before. -/
theorem refused_unchanged (d : Dialect) (g : Grammar) (argv : List String) :
    (∀ read, ((d.run g read argv).status = 2 ↔ ∃ text, d.firstStop? read argv = some (.refused text)) ∧
      ∀ text, d.firstStop? read argv = some (.refused text) → (d.run g read argv).stdout = "" ∧
        (d.run g read argv).stderr = complaint text ∧ (d.run g read argv).writes = []) ∧
      ∀ fs : FileSystem, (d.runIn g fs argv).1.status = 2 → (d.runIn g fs argv).2 = fs := by
  refine ⟨fun read => ⟨status_run, fun text h => ?_⟩, fun fs hs => ?_⟩
  · rw [run_of_firstStop? h]
    exact ⟨rfl, rfl, rfl⟩
  · obtain ⟨text, h⟩ := status_run.mp hs
    rw [Dialect.runIn, run_of_firstStop? h]
    rfl

end Command

namespace Sample

/-- A working directory with one component. -/
def oneFile : FileSystem := .ofFiles [] [("a.tsx", "() => <B a=\x7b1\x7d />;".toUTF8)]

/-- A call that fails at its last file, after one that can be hoisted, leaves both the output and the files alone. -/
theorem oneFile_refused :
    let after := Command.runIn (fun _ _ => none) oneFile ["--write", "a.tsx", "./b.tsx", "c.txt"]
    after.1.status = 2 ∧ after.1.stdout = "" ∧ after.2 = oneFile ∧
      after.1.stderr = Command.complaint "[Errno 2] No such file or directory: 'b.tsx'" := by
  have hfirst : Command.Dialect.standard.firstStop? oneFile.read ["--write", "a.tsx", "./b.tsx", "c.txt"] =
      some (.refused "[Errno 2] No such file or directory: 'b.tsx'") := by decide +kernel
  obtain ⟨hread, hfs⟩ := Command.refused_unchanged .standard (fun _ _ => none) ["--write", "a.tsx", "./b.tsx", "c.txt"]
  have hstatus := (hread oneFile.read).1.mpr ⟨_, hfirst⟩
  obtain ⟨hout, herr, _⟩ := (hread oneFile.read).2 _ hfirst
  exact ⟨hstatus, hout, hfs oneFile hstatus, herr⟩

end Sample

end AttrHoist
