import AttrHoist.Proofs.Lemmas.Writes
import AttrHoist.Proofs.Lossless
import AttrHoist.Proofs.Refusal
import AttrHoist.Proofs.SourceText

/-!
# Calls that succeed

When all checks pass, every file that a call names is hoisted once, from what it held before the call, however often
and however it is named. With writing, this decides what each file holds afterwards; without, what is printed.
-/

namespace AttrHoist

/-! ## Hoisting succeeds -/

/-- The grammar has a tree for every source, with positions between characters. -/
def Grammar.Divides (g : Grammar) : Prop :=
  ∀ l source, ∃ parsed, g l source = some parsed ∧ ∀ x ∈ parsed.root.offsets, ¬ InsideCharacter source x

theorem passable_of_forall {source : String} {pos : Nat} {xs : List Nat} (hp : ¬ InsideCharacter source pos)
    (h : ∀ x ∈ xs, ¬ InsideCharacter source x) : Passable source pos xs := by
  induction xs generalizing pos with
  | nil => exact passable_nil.mpr hp
  | cons x xs ih =>
      refine passable_cons.mpr ⟨hp, ih ?_ fun y hy => h y (List.mem_cons_of_mem x hy)⟩
      rcases Nat.le_total pos x with hle | hle
      · rw [Nat.max_eq_right hle]
        exact h x List.mem_cons_self
      · rw [Nat.max_eq_left hle]
        exact hp

theorem Language.ofName?_name (l : Language) : ofName? l.name = some l := by cases l <;> rfl

theorem Grammar.Divides.hoistSource {g : Grammar} (hg : g.Divides) (source : String) (l : Language)
    (options : Options) : ∃ result, (g.hoistSource source l.name options).run.value = .ok result := by
  obtain ⟨parsed, hparsed, hoffsets⟩ := hg l source
  have hpass := passable_of_forall (Concrete.not_inside_zero source) hoffsets
  rcases parsed.root.toNode?_cases source with ⟨hno, _⟩ | ⟨_, t, ht, _⟩
  · exact absurd hpass hno
  · exact ⟨_, Grammar.value_hoistSource (Language.ofName?_name l) hparsed ht options⟩

/-! ## The language of a file -/

theorem Language.extension_of_ofPath {file : String} {l : Language} (h : ofPath file = .ok l) :
    ofExtension? (String.ofList ((Path.ofText file).extension.map Char.toLower)) = some l := by
  delta ofPath at h
  generalize ofExtension? _ = found at h
  cases found with
  | none => cases h
  | some l' => cases h; rfl

namespace Command

section
variable {fs : FileSystem} {place : Location}

/-- A path with an extension ends in the name of the place that it leads to. -/
theorem getLast?_of_extension {p : Path} (hp : fs.locate p = .ok place) (he : p.extension ≠ []) :
    p.parts.getLast? = place.getLast? := by
  cases hlast : p.parts.getLast? with
  | none => exact absurd (by rw [Path.extension, hlast]; rfl) he
  | some name =>
      refine (FileSystem.getLast?_of_locate hp hlast ?_).symm
      rintro rfl
      exact he (by rw [Path.extension, hlast]; rfl)

theorem extension_ne_nil {file : String} {l : Language} (h : Language.ofPath file = .ok l) :
    (Path.ofText file).extension ≠ [] := by
  intro he
  have hnone : Language.ofExtension? (String.ofList ([].map Char.toLower)) = none := by decide
  have hl := Language.extension_of_ofPath h
  rw [he, hnone] at hl
  cases hl

/-- However a file is named, its language is the same. -/
theorem IsLanguage.unique {a a' : Arguments} (ha : a'.language = a.language) {file file' : String} {l l' : Language}
    (h : IsLanguage a file l) (h' : IsLanguage a' file' l') (hp : fs.locate (Path.ofText file) = .ok place)
    (hp' : fs.locate (Path.ofText file') = .ok place) : l' = l := by
  rw [IsLanguage, ha] at h'
  rcases h with h | ⟨h, ho⟩ <;> rcases h' with h' | ⟨h', ho'⟩
  · exact Option.some.inj (h'.symm.trans h)
  · rw [h] at h'
    cases h'
  · rw [h] at h'
    cases h'
  · have hlast := (getLast?_of_extension hp (extension_ne_nil ho)).trans
      (getLast?_of_extension hp' (extension_ne_nil ho')).symm
    have hext : (Path.ofText file').extension = (Path.ofText file).extension := by
      rw [Path.extension, Path.extension, hlast]
    have hl' := Language.extension_of_ofPath ho'
    rw [hext, Language.extension_of_ofPath ho] at hl'
    exact (Option.some.inj hl').symm

end

/-! ## Files that a call names -/

/-- A file that a call names: where it is, its bytes, its text with unified line breaks, and what hoisting makes of
that. -/
structure NamedFile where
  place : Location
  bytes : ByteArray
  text : String
  result : String

/-- `n.Of g fs a options file`: the argument `file` of a call names `n`. -/
structure NamedFile.Of (g : Grammar) (fs : FileSystem) (a : Arguments) (options : Options) (file : String)
    (n : NamedFile) : Prop where
  place : fs.locate (Path.ofText file) = .ok n.place
  bytes : fs.get? n.place = some (.file n.bytes)
  text : readText n.bytes = .ok n.text
  result : ∃ l, IsLanguage a file l ∧ (g.hoistSource n.text l.name options).run.value = .ok n.result

/-- The bytes of a file after a call that writes. -/
def NamedFile.final (n : NamedFile) : ByteArray := if n.result = n.text then n.bytes else n.result.toUTF8

variable {d : Dialect} {g : Grammar} {fs : FileSystem} {a a' : Arguments} {options : Options}

theorem NamedFile.Of.unique (ha : a'.language = a.language) {file file' : String} {n n' : NamedFile}
    (h : NamedFile.Of g fs a options file n) (h' : NamedFile.Of g fs a' options file' n')
    (hp : n'.place = n.place) : n' = n := by
  obtain ⟨place, bytes, text, result⟩ := n
  obtain ⟨place', bytes', text', result'⟩ := n'
  cases hp
  obtain ⟨hplace, hbytes, htext, l, hl, hresult⟩ := h
  obtain ⟨hplace', hbytes', htext', l', hl', hresult'⟩ := h'
  dsimp only at hplace hbytes htext hresult hplace' hbytes' htext' hresult'
  rw [hbytes] at hbytes'
  cases hbytes'
  rw [htext] at htext'
  cases htext'
  rw [IsLanguage.unique ha hl hl' hplace hplace', hresult] at hresult'
  cases hresult'
  rfl

theorem readInput_eq_ok {read : Path → Except ReadFault ByteArray} {file : String} {i : Input}
    (h : readInput read a.language file = .ok i) :
    i.path = Path.ofText file ∧ IsLanguage a file i.language ∧
      ∃ bytes, read (Path.ofText file) = .ok bytes ∧ readText bytes = .ok i.source := by
  rcases readInput_cases read a file with ⟨_, l, hl, hr⟩ | ⟨text, _, hr⟩
  · rw [hr] at h
    cases hbytes : read (Path.ofText file) with
    | error fault => rw [hbytes] at h; cases h
    | ok bytes =>
        rw [hbytes] at h
        cases htext : readText bytes with
        | error fault => simp only [bind, Except.bind, htext] at h; cases h
        | ok source =>
            simp only [bind, Except.bind, htext] at h
            cases h
            exact ⟨rfl, hl, bytes, rfl, htext⟩
  · rw [hr] at h
    cases h

/-- `Input.Names`: the input `i` was read from the file `n`, which the argument `file` names. -/
structure Input.Names (g : Grammar) (fs : FileSystem) (a : Arguments) (options : Options) (file : String) (i : Input)
    (n : NamedFile) : Prop where
  of : n.Of g fs a options file
  path : i.path = Path.ofText file
  source : i.source = n.text
  result : (g.hoistSource i.source i.language.name options).run.value = .ok n.result

theorem names_of_readInput (hg : g.Divides) (options : Options) {file : String} {i : Input}
    (h : readInput fs.read a.language file = .ok i) : ∃ n, i.Names g fs a options file n := by
  obtain ⟨hpath, hl, bytes, hbytes, htext⟩ := readInput_eq_ok h
  obtain ⟨place, hplace, hget⟩ := FileSystem.read_eq_ok.mp hbytes
  obtain ⟨result, hresult⟩ := hg.hoistSource i.source i.language options
  exact ⟨⟨place, bytes, i.source, result⟩, ⟨hplace, hget, htext, _, hl, hresult⟩, hpath, rfl, hresult⟩

theorem rows_of_mapM (hg : g.Divides) (options : Options) {files : List String} {inputs : List Input}
    (h : files.mapM (readInput fs.read a.language) = .ok inputs) :
    ∃ rows : List (String × NamedFile), rows.map Prod.fst = files ∧
      List.Forall₂ (fun i row => i.Names g fs a options row.1 row.2) inputs rows := by
  induction files generalizing inputs with
  | nil => cases h; exact ⟨[], rfl, .nil⟩
  | cons file files ih =>
      rw [List.mapM_cons] at h
      cases hi : readInput fs.read a.language file with
      | error text => rw [hi] at h; cases h
      | ok i =>
          cases his : files.mapM (readInput fs.read a.language) with
          | error text => rw [hi, his] at h; cases h
          | ok is =>
              rw [hi, his] at h
              cases h
              obtain ⟨n, hn⟩ := names_of_readInput hg options hi
              obtain ⟨rows, hfiles, hrows⟩ := ih his
              exact ⟨(file, n) :: rows, by rw [List.map_cons, hfiles], .cons hn hrows⟩

theorem of_rows {inputs : List Input} {rows : List (String × NamedFile)}
    (h : List.Forall₂ (fun i row => i.Names g fs a options row.1 row.2) inputs rows) :
    ∀ row ∈ rows, row.2.Of g fs a options row.1 := by
  induction h with
  | nil => exact fun row hrow => by cases hrow
  | cons hn _ ih =>
      intro row hrow
      rcases List.mem_cons.mp hrow with rfl | hrow
      · exact hn.of
      · exact ih row hrow

theorem prepare_eq_ok {read : Path → Except ReadFault ByteArray} {inputs : List Input}
    (h : d.prepare read a = .ok (options, inputs)) :
    d.filter a.propRegex = .passed options ∧ a.files.mapM (readInput read a.language) = .ok inputs := by
  rw [Dialect.prepare] at h
  cases ho : d.filter a.propRegex with
  | refused reason => rw [ho] at h; cases h
  | broken fault => rw [ho] at h; cases h
  | passed o =>
      rw [ho] at h
      cases hi : a.files.mapM (readInput read a.language) with
      | error text => simp only [hi] at h; cases h
      | ok is =>
          simp only [hi] at h
          cases h
          exact ⟨rfl, rfl⟩

/-! ## Working through the inputs -/

/-- What stands above the result of a file that is printed. -/
def heading (a : Arguments) (file : String) : String :=
  if a.files.length > 1 then "// " ++ (Path.ofText file).toText ++ "\n" else ""

/-- What is printed for a file. -/
def printed (a : Arguments) (row : String × NamedFile) : String :=
  if a.write then "" else heading a row.1 ++ row.2.result

/-- What is written for a file. -/
def written (a : Arguments) (row : String × NamedFile) : List (Path × String) :=
  if a.write ∧ row.2.result ≠ row.2.text then [(Path.ofText row.1, row.2.result)] else []

theorem join_printed (h : a.write = true) (rows : List (String × NamedFile)) :
    String.join (rows.map (printed a)) = "" := by
  induction rows with
  | nil => rfl
  | cons row rows ih => rw [List.map_cons, String.join_cons, ih, printed, if_pos h]; rfl

theorem deliver_names {file : String} {i : Input} {n : NamedFile} (h : i.Names g fs a options file n) (o : Outcome) :
    (deliver a i n.result o).status = o.status ∧
      (deliver a i n.result o).stdout = o.stdout ++ printed a (file, n) ∧
      (deliver a i n.result o).writes = o.writes ++ written a (file, n) := by
  rw [deliver, printed, written, h.source, h.path, heading]
  cases a.write with
  | false => simp [String.append_assoc]
  | true =>
      by_cases hr : n.result = n.text
      · simp [hr]
      · simp [hr]

theorem process_rows {inputs : List Input} {rows : List (String × NamedFile)}
    (h : List.Forall₂ (fun i row => i.Names g fs a options row.1 row.2) inputs rows) (o : Outcome) :
    (process g options a inputs o).status = o.status ∧
      (process g options a inputs o).stdout = o.stdout ++ String.join (rows.map (printed a)) ∧
      (process g options a inputs o).writes = o.writes ++ rows.flatMap (written a) := by
  induction h generalizing o with
  | nil => simp [process]
  | @cons i row inputs rows hn _ ih =>
      obtain ⟨file, n⟩ := row
      rw [process, hn.result]
      obtain ⟨hstatus, hout, hwrites⟩ := deliver_names hn
        { o with stderr := o.stderr ++
            logText a.verbose (g.hoistSource i.source i.language.name options).run.events }
      obtain ⟨hstatus', hout', hwrites'⟩ := ih (deliver a i n.result
        { o with stderr := o.stderr ++
            logText a.verbose (g.hoistSource i.source i.language.name options).run.events })
      refine ⟨hstatus'.trans hstatus, ?_, ?_⟩
      · rw [hout', hout, List.map_cons, String.join_cons, String.append_assoc]
      · rw [hwrites', hwrites, List.flatMap_cons, List.append_assoc]

/-! ## Written files -/

section
variable {rows : List (String × NamedFile)} (hrows : ∀ row ∈ rows, row.2.Of g fs a options row.1)
include hrows

/-- All that is written is the result of hoisting in some file, at its place, and not the text that it has. -/
theorem of_written {w : Path × String} (hw : w ∈ rows.flatMap (written a)) :
    ∃ row ∈ rows, fs.locate w.1 = .ok row.2.place ∧ w.2 = row.2.result ∧ row.2.result ≠ row.2.text := by
  obtain ⟨row, hrow, hw⟩ := List.mem_flatMap.mp hw
  rw [written] at hw
  split at hw
  · rename_i hc
    rw [List.mem_singleton.mp hw]
    exact ⟨row, hrow, (hrows row hrow).place, rfl, hc.2⟩
  · cases hw

theorem overwrites_rows : fs.Overwrites (rows.flatMap (written a)) := by
  intro w hw
  obtain ⟨row, hrow, hplace, _⟩ := of_written hrows hw
  exact ⟨_, _, hplace, (hrows row hrow).bytes⟩

/-- What is written to the place of a file is the result of hoisting in this file, and it is not its text. -/
theorem written_at {row : String × NamedFile} (hrow : row ∈ rows) {w : Path × String}
    (hw : w ∈ rows.flatMap (written a)) (hp : fs.locate w.1 = .ok row.2.place) :
    w.2 = row.2.result ∧ row.2.result ≠ row.2.text := by
  obtain ⟨row', hrow', hplace, hresult⟩ := of_written hrows hw
  have hsame := NamedFile.Of.unique rfl (hrows row hrow) (hrows row' hrow') (Except.ok.inj (hplace.symm.trans hp))
  rwa [hsame] at hresult

theorem get?_written (ha : a.write = true) {row : String × NamedFile} (hrow : row ∈ rows) :
    (fs.writeAll (rows.flatMap (written a))).get? row.2.place = some (.file row.2.final) := by
  have hover := overwrites_rows hrows
  rw [NamedFile.final]
  by_cases hr : row.2.result = row.2.text
  · rw [if_pos hr, ← (hrows row hrow).bytes]
    exact FileSystem.get?_writeAll_of_not_mem hover fun w hw hp => (written_at hrows hrow hw hp).2 hr
  · rw [if_neg hr]
    refine FileSystem.get?_writeAll_of_mem hover ⟨(Path.ofText row.1, row.2.result), ?_, (hrows row hrow).place⟩
      fun w hw hp => (written_at hrows hrow hw hp).1
    exact List.mem_flatMap.mpr ⟨row, hrow, by rw [written, if_pos ⟨ha, hr⟩]; exact List.mem_cons_self⟩

theorem get?_not_written {place : Location} (hp : ∀ row ∈ rows, row.2.place ≠ place) :
    (fs.writeAll (rows.flatMap (written a))).get? place = fs.get? place := by
  refine FileSystem.get?_writeAll_of_not_mem (overwrites_rows hrows) fun w hw hl => ?_
  obtain ⟨row, hrow, hplace, _⟩ := of_written hrows hw
  exact hp row hrow (Except.ok.inj (hplace.symm.trans hl))

end

/-! ## Calls -/

theorem stops_congr {read : Path → Except ReadFault ByteArray} (hp : a'.propRegex = a.propRegex)
    (hl : a'.language = a.language) (hf : ∀ file ∈ a'.files, file ∈ a.files)
    (hs : ∀ s ∈ d.stops read a, s = none) : ∀ s ∈ d.stops read a', s = none := by
  intro s hm
  apply hs
  have hfile : fileStops read a' = fileStops read a := by
    funext file
    delta fileStops languageStop?
    rw [hl]
  rw [Dialect.stops, Dialect.filterStop?, hp, hfile] at hm
  rcases List.mem_cons.mp hm with rfl | hm
  · exact List.mem_cons_self
  · obtain ⟨file, hm, hs⟩ := List.mem_flatMap.mp hm
    exact List.mem_cons_of_mem _ (List.mem_flatMap.mpr ⟨file, hf file hm, hs⟩)

/-- A call that passes its checks has a row for each of its files; these decide what it prints and writes. -/
theorem runIn_rows (hg : g.Divides) {argv : List String} (ha : d.arguments argv = .ok a)
    (hs : ∀ s ∈ d.stops fs.read a, s = none) :
    ∃ (options : Options) (rows : List (String × NamedFile)), d.filter a.propRegex = .passed options ∧
      rows.map Prod.fst = a.files ∧ (∀ row ∈ rows, row.2.Of g fs a options row.1) ∧
      (d.runIn g fs argv).1.status = 0 ∧ (d.runIn g fs argv).1.stdout = String.join (rows.map (printed a)) ∧
      (d.runIn g fs argv).2 = fs.writeAll (rows.flatMap (written a)) := by
  rcases settles_prepare d fs.read a with ⟨stop, hsome, _⟩ | ⟨_, ⟨options, inputs⟩, hprepare⟩
  · obtain ⟨s, hm, hstop⟩ := List.exists_of_findSome?_eq_some hsome
    rw [hs s hm] at hstop
    cases hstop
  · obtain ⟨ho, hinputs⟩ := prepare_eq_ok hprepare
    obtain ⟨rows, hfiles, hrows⟩ := rows_of_mapM hg options hinputs
    obtain ⟨hstatus, hout, hwrites⟩ := process_rows hrows { status := 0 }
    have hrun : d.run g fs.read argv = process g options a inputs { status := 0 } := by
      rw [Dialect.run, ha]
      simp only [hprepare]
    refine ⟨options, rows, ho, hfiles, of_rows hrows, ?_, ?_, ?_⟩
    · rw [Dialect.runIn, hrun]
      exact hstatus
    · rw [Dialect.runIn, hrun, hout]
      exact String.empty_append
    · rw [Dialect.runIn, hrun, hwrites]
      rfl

/-- Calls that write the same files leave the same contents, in whatever order, how often and by which names they are
given. -/
theorem get?_runIn_congr (hg : g.Divides) {argv argv' : List String} (ha : d.arguments argv = .ok a)
    (ha' : d.arguments argv' = .ok a') (hs : ∀ s ∈ d.stops fs.read a, s = none)
    (hs' : ∀ s ∈ d.stops fs.read a', s = none) (hw : a.write = true) (hw' : a'.write = true)
    (hp : a'.propRegex = a.propRegex) (hl : a'.language = a.language)
    (hplaces : ∀ place, (∃ file ∈ a'.files, fs.locate (Path.ofText file) = .ok place) ↔
      ∃ file ∈ a.files, fs.locate (Path.ofText file) = .ok place) (place : Location) :
    (d.runIn g fs argv').2.get? place = (d.runIn g fs argv).2.get? place := by
  obtain ⟨options, rows, ho, hfiles, hrows, _, _, hfs⟩ := runIn_rows hg ha hs
  obtain ⟨options', rows', ho', hfiles', hrows', _, _, hfs'⟩ := runIn_rows hg ha' hs'
  have hoptions : options' = options := by
    rw [hp, ho] at ho'
    exact (FilterVerdict.passed.inj ho').symm
  subst hoptions
  rw [hfs, hfs']
  -- arguments lead to the places of their rows, so both calls have rows at the same places
  have hmem {rows : List (String × NamedFile)} {a : Arguments} (hfiles : rows.map Prod.fst = a.files)
      (hrows : ∀ row ∈ rows, row.2.Of g fs a options' row.1) :
      (∃ file ∈ a.files, fs.locate (Path.ofText file) = .ok place) ↔ ∃ row ∈ rows, row.2.place = place := by
    rw [← hfiles]
    constructor
    · rintro ⟨file, hf, hplace⟩
      obtain ⟨row, hrow, rfl⟩ := List.mem_map.mp hf
      exact ⟨row, hrow, Except.ok.inj ((hrows row hrow).place.symm.trans hplace)⟩
    · rintro ⟨row, hrow, rfl⟩
      exact ⟨row.1, List.mem_map_of_mem hrow, (hrows row hrow).place⟩
  by_cases hnamed : ∃ row ∈ rows, row.2.place = place
  · obtain ⟨row', hrow', hplace'⟩ := (hmem hfiles' hrows').mp ((hplaces place).mpr ((hmem hfiles hrows).mpr hnamed))
    obtain ⟨row, hrow, rfl⟩ := hnamed
    have hsame := NamedFile.Of.unique hl (hrows row hrow) (hrows' row' hrow') hplace'
    rw [get?_written hrows hw hrow, ← hplace', get?_written hrows' hw' hrow', hsame]
  · have hnot' : ¬ ∃ row ∈ rows', row.2.place = place := fun h =>
      hnamed ((hmem hfiles hrows).mp ((hplaces place).mp ((hmem hfiles' hrows').mpr h)))
    rw [get?_not_written hrows fun row hrow hplace => hnamed ⟨row, hrow, hplace⟩,
      get?_not_written hrows' fun row hrow hplace => hnot' ⟨row, hrow, hplace⟩]

/-- However arguments are read and filters judged, a call that no check stops succeeds. If it writes, it prints
nothing; every file that it names holds the result of hoisting in its text if that differs from the text, and its old
bytes if not; all other places are as before; and the same files in another order, or repeated, give the same contents.
If it does not write, no file changes, and it prints these results in the order of the arguments, each under its path
if there are several. -/
theorem named_files_hoisted (d : Dialect) (g : Grammar) (hg : g.Divides) (fs : FileSystem) (argv : List String)
    (a : Arguments) (ha : d.arguments argv = .ok a) (hs : ∀ s ∈ d.stops fs.read a, s = none) :
    ∃ (options : Options) (rows : List (String × NamedFile)), d.filter a.propRegex = .passed options ∧
      rows.map Prod.fst = a.files ∧ (∀ row ∈ rows, row.2.Of g fs a options row.1) ∧
      (d.runIn g fs argv).1.status = 0 ∧
      (a.write = true → (d.runIn g fs argv).1.stdout = "" ∧
        (∀ row ∈ rows, (d.runIn g fs argv).2.get? row.2.place = some (.file row.2.final)) ∧
        (∀ place, (∀ row ∈ rows, row.2.place ≠ place) → (d.runIn g fs argv).2.get? place = fs.get? place) ∧
        ∀ argv' a', d.arguments argv' = .ok a' → a'.write = true → a'.propRegex = a.propRegex →
          a'.language = a.language → (∀ file, file ∈ a'.files ↔ file ∈ a.files) →
          ∀ place, (d.runIn g fs argv').2.get? place = (d.runIn g fs argv).2.get? place) ∧
      (a.write = false → (d.runIn g fs argv).2 = fs ∧
        (d.runIn g fs argv).1.stdout = String.join (rows.map fun row => heading a row.1 ++ row.2.result)) := by
  obtain ⟨options, rows, ho, hfiles, hrows, hstatus, hout, hfs⟩ := runIn_rows hg ha hs
  refine ⟨options, rows, ho, hfiles, hrows, hstatus, fun hw => ⟨?_, ?_, ?_, ?_⟩, fun hw => ⟨?_, ?_⟩⟩
  · rw [hout, join_printed hw]
  · intro row hrow
    rw [hfs, get?_written hrows hw hrow]
  · intro place hplace
    rw [hfs, get?_not_written hrows hplace]
  · intro argv' a' ha' hw' hp hl hf
    have hs' := stops_congr hp hl (fun file hm => (hf file).mp hm) hs
    exact get?_runIn_congr hg ha ha' hs hs' hw hw' hp hl fun place =>
      exists_congr fun file => and_congr_left fun _ => hf file
  · have hnone : rows.flatMap (written a) = [] :=
      List.flatMap_eq_nil_iff.mpr fun row _ => by rw [written, hw]; exact if_neg (by simp)
    rw [hfs, hnone]
    rfl
  · rw [hout]
    refine congrArg String.join (List.map_congr_left fun row _ => ?_)
    rw [printed, hw]
    rfl

end Command

namespace Sample

/-- The grammar of the component; any other source is a single node. -/
def twoValuesGrammar : Grammar := fun _ source =>
  some ⟨if source = twoValues then twoValuesRoot else leaf Kind.program 0 source.utf8ByteSize, false⟩

theorem divides_twoValuesGrammar : twoValuesGrammar.Divides := by
  intro l source
  refine ⟨_, rfl, fun x hx => ?_⟩
  dsimp only at hx
  split at hx
  · rename_i hs
    have hvalid : ∀ x ∈ twoValuesRoot.offsets, x ≤ twoValues.utf8ByteSize ∧ String.Pos.Raw.IsValid twoValues ⟨x⟩ := by
      decide +kernel
    rw [hs]
    exact (isValid_iff_not_inside (hvalid x hx).1).mp (hvalid x hx).2
  · have hends : x = 0 ∨ x = source.utf8ByteSize := by
      simpa [leaf, Concrete.offsets, Concrete.offsetsAll] using hx
    rcases hends with rfl | rfl
    · exact Concrete.not_inside_zero source
    · exact not_inside_of_size_le (Nat.le_refl _)

/-- The component, and a source in which there is nothing to hoist; neither has unified line breaks. -/
def twoFiles : FileSystem :=
  .ofFiles ["d"] [("a.tsx", "() => <B a=\x7b'é'\x7d b=\x7b2\x7d />;\r\n".toUTF8), ("b.ts", "\uFEFF;\r\n".toUTF8)]

theorem eq_ok_of_toOption {ε α : Type} {x : Except ε α} {r : α} (h : x.toOption = some r) : x = .ok r := by
  cases x with
  | error _ => cases h
  | ok _ => cases h; rfl

/-- A file that is named twice is hoisted once, and one in which nothing is hoisted keeps its line breaks. -/
theorem twoFiles_hoisted :
    let argv := ["-w", "a.tsx", "d/../a.tsx", "./b.ts"]
    let a : Command.Arguments := { files := ["a.tsx", "d/../a.tsx", "./b.ts"], write := true }
    let after := Command.runIn twoValuesGrammar twoFiles argv
    twoValuesGrammar.Divides ∧ Command.Dialect.standard.arguments argv = .ok a ∧
      (∀ s ∈ Command.Dialect.standard.stops twoFiles.read a, s = none) ∧ after.1.status = 0 ∧ after.1.stdout = "" ∧
      after.2.get? ["work", "a.tsx"] = some (.file twoValuesMoved.toUTF8) ∧
      after.2.get? ["work", "b.ts"] = some (.file "\uFEFF;\r\n".toUTF8) := by
  intro argv a after
  have ha : Command.Dialect.standard.arguments argv = .ok a := rfl
  have hs : ∀ s ∈ Command.Dialect.standard.stops twoFiles.read a, s = none := by decide +kernel
  obtain ⟨options, rows, ho, hfiles, hrows, hstatus, hwrite, _⟩ :=
    Command.named_files_hoisted .standard twoValuesGrammar divides_twoValuesGrammar twoFiles argv a ha hs
  obtain ⟨hout, hfinal, _⟩ := hwrite rfl
  have hoptions : options = .default := (FilterVerdict.passed.inj ho).symm
  subst hoptions
  -- a row for the argument `file` is about the file that `n` describes
  have hrow {file : String} {n : Command.NamedFile} (hf : file ∈ a.files)
      (hn : n.Of twoValuesGrammar twoFiles a .default file) : after.2.get? n.place = some (.file n.final) := by
    rw [← hfiles] at hf
    obtain ⟨row, hrow, rfl⟩ := List.mem_map.mp hf
    have hplace := Except.ok.inj ((hrows row hrow).place.symm.trans hn.place)
    rw [← Command.NamedFile.Of.unique rfl hn (hrows row hrow) hplace]
    exact hfinal row hrow
  have hfirst : Command.NamedFile.Of twoValuesGrammar twoFiles a .default "a.tsx"
      ⟨["work", "a.tsx"], "() => <B a=\x7b'é'\x7d b=\x7b2\x7d />;\r\n".toUTF8, twoValues, twoValuesMoved⟩ :=
    ⟨rfl, rfl, eq_ok_of_toOption (by decide +kernel), .tsx, Or.inr ⟨rfl, eq_ok_of_toOption (by decide +kernel)⟩,
      eq_ok_of_toOption (by decide +kernel)⟩
  have hsecond : Command.NamedFile.Of twoValuesGrammar twoFiles a .default "./b.ts"
      ⟨["work", "b.ts"], "\uFEFF;\r\n".toUTF8, "\uFEFF;\n", "\uFEFF;\n"⟩ :=
    ⟨rfl, rfl, eq_ok_of_toOption (by decide +kernel), .typescript, Or.inr ⟨rfl, eq_ok_of_toOption (by decide +kernel)⟩,
      eq_ok_of_toOption (by decide +kernel)⟩
  exact ⟨divides_twoValuesGrammar, ha, hs, hstatus, hout, hrow (by decide) hfirst, hrow (by decide) hsecond⟩

end Sample

end AttrHoist
