import Mathlib

/-!
# Grouping by key

Elements of a list grouped by a key that some of them have. The groups of distinct keys overlap
nowhere and together hold every element with one of these keys, so their sizes add up.
-/
namespace StaticTables

variable {β γ : Type}

theorem filter_append_filter_perm {l : List β} {p q : β → Bool}
    (hdisjoint : ∀ b ∈ l, p b → q b = false) :
    (l.filter p ++ l.filter q).Perm (l.filter fun b => p b || q b) := by
  have hsplit := List.filter_append_perm p (l.filter fun b => p b || q b)
  rw [List.filter_filter, List.filter_filter] at hsplit
  have hfirst : l.filter p = l.filter fun b => p b && (p b || q b) :=
    List.filter_congr fun b _ => by cases p b <;> rfl
  have hsecond : l.filter q = l.filter fun b => !p b && (p b || q b) := by
    refine List.filter_congr fun b hb => ?_
    cases hp : p b with
    | false => rfl
    | true => rw [hdisjoint b hb hp]; rfl
  rw [hfirst, hsecond]
  exact hsplit

variable [DecidableEq γ]

/-- With distinct keys an element is found by its key. -/
theorem find?_of_nodup_map {l : List β} {key : β → γ} (distinct : (l.map key).Nodup) {b : β}
    (hb : b ∈ l) : l.find? (key · = key b) = some b := by
  cases hfind : l.find? (key · = key b) with
  | none =>
    have hnot := List.find?_eq_none.mp hfind b hb
    exact absurd (decide_eq_true rfl) hnot
  | some c =>
    have hkey : key c = key b := by simpa using List.find?_some hfind
    rw [List.inj_on_of_nodup_map distinct (List.mem_of_find?_eq_some hfind) hb hkey]

/-- With distinct keys an element is the only one with its key. -/
theorem filter_of_nodup_map {l : List β} {key : β → γ} (distinct : (l.map key).Nodup) {b : β}
    (hb : b ∈ l) : l.filter (key · = key b) = [b] := by
  induction l with
  | nil => contradiction
  | cons c l ih =>
    rw [List.map_cons, List.nodup_cons] at distinct
    obtain ⟨hfresh, distinct⟩ := distinct
    rcases List.mem_cons.mp hb with rfl | hb
    · have hnone : l.filter (key · = key b) = [] := by
        rw [List.filter_eq_nil_iff]
        intro c hc heq
        exact hfresh (List.mem_map.mpr ⟨c, hc, by simpa using heq⟩)
      simp [hnone]
    · have hne : key c ≠ key b := by
        intro heq
        exact hfresh (List.mem_map.mpr ⟨b, hb, heq.symm⟩)
      simp [hne, ih distinct hb]

/-- The groups of distinct keys are what the list holds under these keys, in another order. -/
theorem flatMap_filter_perm (l : List β) (key : β → Option γ) {keys : List γ}
    (hkeys : keys.Nodup) :
    (keys.flatMap fun k => l.filter fun b => key b = some k).Perm
      (l.filter fun b => (key b).any (· ∈ keys)) := by
  induction keys with
  | nil => simp
  | cons k keys ih =>
    obtain ⟨hk, hkeys⟩ := List.nodup_cons.mp hkeys
    -- the first key does not come again, so its group shares nothing with the others
    have hdisjoint : ∀ b ∈ l, decide (key b = some k) → (key b).any (· ∈ keys) = false := by
      intro b _ hb
      rw [decide_eq_true_eq] at hb
      simp [hb, hk]
    rw [List.flatMap_cons]
    refine ((ih hkeys).append_left _).trans ((filter_append_filter_perm hdisjoint).trans ?_)
    refine List.Perm.of_eq (List.filter_congr fun b _ => ?_)
    cases key b <;> simp

/-- When the keys cover the list, the groups hold every element that has a key. -/
theorem flatMap_filter_perm_of_cover {l : List β} {key : β → Option γ} {keys : List γ}
    (hkeys : keys.Nodup) (hcover : ∀ b ∈ l, ∀ k, key b = some k → k ∈ keys) :
    (keys.flatMap fun k => l.filter fun b => key b = some k).Perm
      (l.filter fun b => (key b).isSome) := by
  refine (flatMap_filter_perm l key hkeys).trans (List.Perm.of_eq ?_)
  refine List.filter_congr fun b hb => ?_
  cases hkey : key b with
  | none => rfl
  | some k => simpa using hcover b hb k hkey

end StaticTables
