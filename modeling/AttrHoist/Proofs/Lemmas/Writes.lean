import AttrHoist.Files
import AttrHoist.Source.Language

/-!
# Writing over files

Writing over a file leaves everything where it was, so paths lead to the same places after it. Several writes come to
the last one at each place.
-/

namespace AttrHoist

namespace FileSystem

/-! ## Shape -/

/-- Whether there is a directory at a location, or a file. -/
def isDirectory? (fs : FileSystem) (l : Location) : Option Bool :=
  (fs.get? l).map fun
    | .file _ => false
    | .directory => true

/-- `gs` has files and directories at the same locations as `fs`. -/
def SameShape (fs gs : FileSystem) : Prop :=
  gs.current = fs.current ∧ ∀ l, gs.isDirectory? l = fs.isDirectory? l

variable {fs gs : FileSystem}

theorem follow_eq (fs : FileSystem) (l : Location) (part : String) : fs.follow l part =
    match fs.isDirectory? l with
    | some true =>
      if part = ".." then .ok l.dropLast
      else if (fs.isDirectory? (l ++ [part])).isSome then .ok (l ++ [part])
      else .error .missing
    | some false => .error .notDirectory
    | none => .error .missing := by
  rw [follow, isDirectory?, isDirectory?, Option.isSome_map]
  cases fs.get? l with
  | none => rfl
  | some e => cases e <;> rfl

theorem SameShape.locate (h : SameShape fs gs) (p : Path) : gs.locate p = fs.locate p := by
  have hf : gs.follow = fs.follow := by
    funext l part
    rw [follow_eq, follow_eq, h.2, h.2]
  rw [FileSystem.locate, FileSystem.locate, hf, h.1]

theorem read_eq_ok {p : Path} {bytes : ByteArray} :
    fs.read p = .ok bytes ↔ ∃ l, fs.locate p = .ok l ∧ fs.get? l = some (.file bytes) := by
  rw [read]
  cases fs.locate p with
  | error fault => exact iff_of_false nofun (by rintro ⟨l, h, _⟩; cases h)
  | ok l =>
      simp only [bind, Except.bind]
      constructor
      · intro h
        split at h
        · rename_i he
          cases h
          exact ⟨l, rfl, he⟩
        · cases h
        · cases h
      · rintro ⟨l', hl, he⟩
        cases hl
        rw [he]

/-! ## One write -/

theorem lookup_replace (es : List (Location × FileEntry)) (l : Location) (e : FileEntry) (l' : Location) :
    (es.map fun p => if p.1 = l then (l, e) else p).lookup l' =
      if l' = l then (es.lookup l).map fun _ => e else es.lookup l' := by
  induction es with
  | nil => simp
  | cons p es ih =>
      obtain ⟨k, v⟩ := p
      rw [List.map_cons]
      by_cases hk : k = l
      · subst hk
        rw [if_pos rfl, List.lookup_cons, List.lookup_cons, List.lookup_cons]
        by_cases hl : l' = k
        · simp [hl]
        · simp [beq_eq_false_iff_ne.mpr hl, hl, ih]
      · rw [if_neg hk, List.lookup_cons, List.lookup_cons, List.lookup_cons]
        by_cases hl : l' = l
        · have hlk : (l' == k) = false := beq_eq_false_iff_ne.mpr fun h => hk (h ▸ hl)
          rw [hlk, ih, ← hl, hlk]
        · rw [ih, if_neg hl, if_neg hl]

variable {p : Path} {l : Location} {old : ByteArray}

theorem get?_put_file (h : fs.get? l = some (.file old)) (e : FileEntry) (l' : Location) :
    (fs.put l e).get? l' = if l' = l then some e else fs.get? l' := by
  have hne : l ≠ [] := by
    rintro rfl
    cases h
  have hlookup : fs.entries.lookup l = some (.file old) := by rwa [get?, if_neg hne] at h
  rw [get?, get?, put, hlookup, Option.isSome_some, if_pos rfl, lookup_replace, hlookup]
  by_cases hl : l' = l
  · subst hl
    rw [if_neg hne, if_pos rfl, if_pos rfl]
    rfl
  · rw [if_neg hl, if_neg hl]

section
variable (hl : fs.locate p = .ok l) (he : fs.get? l = some (.file old)) (bytes : ByteArray)
include hl he

theorem get?_write (l' : Location) :
    (fs.write p bytes).get? l' = if l' = l then some (.file bytes) else fs.get? l' := by
  rw [write, hl]
  exact get?_put_file he _ l'

theorem sameShape_write : SameShape fs (fs.write p bytes) := by
  refine ⟨by rw [write, hl]; rfl, fun l' => ?_⟩
  rw [isDirectory?, isDirectory?, get?_write hl he]
  by_cases h : l' = l
  · rw [h, if_pos rfl, he]
    rfl
  · rw [if_neg h]

end

/-! ## Several writes -/

/-- Writes texts to paths, one after the other. -/
def writeAll (fs : FileSystem) (ws : List (Path × String)) : FileSystem :=
  ws.foldl (fun fs w => fs.write w.1 w.2.toUTF8) fs

/-- Each of the paths leads to a file. -/
def Overwrites (fs : FileSystem) (ws : List (Path × String)) : Prop :=
  ∀ w ∈ ws, ∃ l old, fs.locate w.1 = .ok l ∧ fs.get? l = some (.file old)

theorem Overwrites.tail {w : Path × String} {ws : List (Path × String)} (h : fs.Overwrites (w :: ws)) :
    (fs.write w.1 w.2.toUTF8).Overwrites ws := by
  obtain ⟨l, old, hl, he⟩ := h w List.mem_cons_self
  intro v hv
  obtain ⟨k, old', hk, he'⟩ := h v (List.mem_cons_of_mem w hv)
  have hget := get?_write hl he w.2.toUTF8 k
  rw [(sameShape_write hl he w.2.toUTF8).locate]
  by_cases hkl : k = l
  · rw [if_pos hkl] at hget
    exact ⟨k, _, hk, hget⟩
  · rw [if_neg hkl, he'] at hget
    exact ⟨k, old', hk, hget⟩

theorem get?_writeAll_of_not_mem {ws : List (Path × String)} (h : fs.Overwrites ws)
    (hl : ∀ w ∈ ws, fs.locate w.1 ≠ .ok l) : (fs.writeAll ws).get? l = fs.get? l := by
  induction ws generalizing fs with
  | nil => rfl
  | cons w ws ih =>
      obtain ⟨k, old, hk, he⟩ := h w List.mem_cons_self
      have hkl : l ≠ k := fun hlk => hl w List.mem_cons_self (hlk ▸ hk)
      rw [writeAll, List.foldl_cons]
      refine (ih h.tail fun v hv => ?_).trans ?_
      · rw [(sameShape_write hk he _).locate]
        exact hl v (List.mem_cons_of_mem w hv)
      · rw [get?_write hk he, if_neg hkl]

theorem get?_writeAll_of_mem {ws : List (Path × String)} (h : fs.Overwrites ws) {text : String}
    (hm : ∃ w ∈ ws, fs.locate w.1 = .ok l) (hall : ∀ w ∈ ws, fs.locate w.1 = .ok l → w.2 = text) :
    (fs.writeAll ws).get? l = some (.file text.toUTF8) := by
  induction ws generalizing fs with
  | nil =>
      obtain ⟨w, hw, _⟩ := hm
      cases hw
  | cons w ws ih =>
      obtain ⟨k, old, hk, he⟩ := h w List.mem_cons_self
      have hlocate := (sameShape_write hk he w.2.toUTF8).locate
      rw [writeAll, List.foldl_cons]
      by_cases hlater : ∃ v ∈ ws, fs.locate v.1 = .ok l
      · obtain ⟨v, hv, hvl⟩ := hlater
        refine ih h.tail ⟨v, hv, by rw [hlocate, hvl]⟩ fun v hv hvl => ?_
        rw [hlocate] at hvl
        exact hall v (List.mem_cons_of_mem w hv) hvl
      · -- the first write is the last one to this place
        have hnot : ∀ v ∈ ws, (fs.write w.1 w.2.toUTF8).locate v.1 ≠ .ok l := fun v hv hvl =>
          hlater ⟨v, hv, by rwa [hlocate] at hvl⟩
        have hw : fs.locate w.1 = .ok l := by
          obtain ⟨v, hv, hvl⟩ := hm
          rcases List.mem_cons.mp hv with rfl | hv
          · exact hvl
          · exact absurd ⟨v, hv, hvl⟩ hlater
        have hkl : l = k := Except.ok.inj (hw.symm.trans hk)
        refine (get?_writeAll_of_not_mem h.tail hnot).trans ?_
        rw [get?_write hk he, if_pos hkl, hall w List.mem_cons_self hw]

/-! ## Names of files -/

/-- A path that ends in a name leads to a place of that name. -/
theorem getLast?_of_locate (h : fs.locate p = .ok l) {name : String} (hp : p.parts.getLast? = some name)
    (hn : name ≠ "..") : l.getLast? = some name := by
  obtain ⟨front, hfront⟩ := List.getLast?_eq_some_iff.mp hp
  rw [FileSystem.locate] at h
  split at h
  · cases h
  · rw [hfront, List.foldlM_append] at h
    obtain ⟨k, h⟩ : ∃ k, fs.follow k name = .ok l := by
      cases hk : front.foldlM fs.follow (if p.start = .relative then fs.current else []) with
      | error fault => rw [hk] at h; cases h
      | ok k =>
          rw [hk] at h
          simp only [List.foldlM_cons, List.foldlM_nil, bind_pure] at h
          exact ⟨k, h⟩
    rw [follow_eq] at h
    split at h
    · rw [if_neg hn] at h
      split at h
      · cases h
        exact List.getLast?_concat
      · cases h
    · cases h
    · cases h

end FileSystem

end AttrHoist
