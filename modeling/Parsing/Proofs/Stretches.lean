import Parsing.Grammar.Action
/-!
# Stretches — the stretches in a value, and what actions do with them

A value all of whose stretches have a property is a value over the stretches with that property (`exists_map_val`).
Since an action is natural, it can be run on that value instead: so it makes no stretches of its own, and those of its
result are among those of its argument.
-/
namespace Parsing
namespace Value

variable {S T : Type}

mutual
/-- The stretches of a value, in order. -/
def stretches : Value S → List S
  | unit | char _ | int _ | text _ | none => []
  | some value => stretches value
  | list items => stretchesOfItems items
  | tuple items => stretchesOfItems items
  | stretch s => [s]

def stretchesOfItems : List (Value S) → List S
  | [] => []
  | item :: items => stretches item ++ stretchesOfItems items
end

theorem mem_stretchesOfItems {s : S} (items : List (Value S)) :
    s ∈ stretchesOfItems items ↔ ∃ item ∈ items, s ∈ item.stretches := by
  induction items with
  | nil => simp [stretchesOfItems]
  | cons item items ih =>
    rw [stretchesOfItems, List.mem_append, ih]
    simp

mutual
theorem stretches_map (f : S → T) : ∀ (v : Value S), (v.map f).stretches = v.stretches.map f
  | unit | char _ | int _ | text _ | none | stretch _ => rfl
  | some value => stretches_map f value
  | list items => stretchesOfItems_mapItems f items
  | tuple items => stretchesOfItems_mapItems f items

theorem stretchesOfItems_mapItems (f : S → T) :
    ∀ (items : List (Value S)), stretchesOfItems (mapItems f items) = (stretchesOfItems items).map f
  | [] => rfl
  | item :: items => by
    rw [mapItems, stretchesOfItems, stretchesOfItems, List.map_append, stretches_map f item,
      stretchesOfItems_mapItems f items]
end

theorem stretches_lift (v : Value Empty) : (v.lift : Value S).stretches = [] := by
  rw [lift, stretches_map]
  cases v.stretches with
  | nil => rfl
  | cons e _ => exact e.elim

mutual
/-- **A value whose stretches all have a property is a value over the stretches that have it.** -/
theorem exists_map_val (P : S → Prop) :
    ∀ (v : Value S), (∀ s ∈ v.stretches, P s) → ∃ w : Value {s // P s}, w.map Subtype.val = v
  | unit, _ => ⟨unit, rfl⟩
  | char c, _ => ⟨char c, rfl⟩
  | int n, _ => ⟨int n, rfl⟩
  | text s, _ => ⟨text s, rfl⟩
  | none, _ => ⟨none, rfl⟩
  | some value, h => by
    obtain ⟨w, rfl⟩ := exists_map_val P value h
    exact ⟨some w, rfl⟩
  | list items, h => by
    obtain ⟨ws, rfl⟩ := exists_mapItems_val P items h
    exact ⟨list ws, rfl⟩
  | tuple items, h => by
    obtain ⟨ws, rfl⟩ := exists_mapItems_val P items h
    exact ⟨tuple ws, rfl⟩
  | stretch s, h => ⟨stretch ⟨s, h s (List.mem_singleton_self s)⟩, rfl⟩

theorem exists_mapItems_val (P : S → Prop) : ∀ (items : List (Value S)),
    (∀ s ∈ stretchesOfItems items, P s) → ∃ ws : List (Value {s // P s}), mapItems Subtype.val ws = items
  | [], _ => ⟨[], rfl⟩
  | item :: items, h => by
    obtain ⟨w, rfl⟩ := exists_map_val P item fun s hs => h s (List.mem_append_left _ hs)
    obtain ⟨ws, rfl⟩ := exists_mapItems_val P items fun s hs => h s (List.mem_append_right _ hs)
    exact ⟨w :: ws, rfl⟩
end

theorem of_mem_stretches_map_val {P : S → Prop} (w : Value {s // P s}) : ∀ s ∈ (w.map Subtype.val).stretches, P s := by
  intro s hs
  rw [stretches_map, List.mem_map] at hs
  obtain ⟨t, -, rfl⟩ := hs
  exact t.property

end Value

variable {σ ζ S : Type} {P : S → Prop}

/-- **A mapping makes no stretches of its own.** -/
theorem Transform.of_mem_stretches (f : Transform σ) (view : S → Excerpt σ) {v result : Value S}
    (h : f.apply view v = .ok result) (hv : ∀ s ∈ v.stretches, P s) : ∀ s ∈ result.stretches, P s := by
  obtain ⟨w, rfl⟩ := Value.exists_map_val P v hv
  rw [f.natural] at h
  cases hw : f.apply (fun s => view s.val) w with
  | error message => rw [hw] at h; cases h
  | ok u =>
    rw [hw] at h
    cases h
    exact u.of_mem_stretches_map_val

/-- **A check makes no stretches of its own.** -/
theorem Check.of_mem_stretches (f : Check σ ζ) (view : S → Excerpt σ) {v result : Value S}
    (h : f.apply view v = .accept result) (hv : ∀ s ∈ v.stretches, P s) : ∀ s ∈ result.stretches, P s := by
  obtain ⟨w, rfl⟩ := Value.exists_map_val P v hv
  rw [f.natural] at h
  cases hw : f.apply (fun s => view s.val) w with
  | accept u =>
    rw [hw] at h
    cases h
    exact u.of_mem_stretches_map_val
  | reject seed => rw [hw] at h; cases h
  | defect message => rw [hw] at h; cases h

end Parsing
