/-!
Items in a row, each with a key. What is kept of them for the sake of some keys is enough to look
those up, and a key that no two of them share picks out one.
-/

namespace Transcoding

variable {α β γ : Type} [BEq α] [LawfulBEq α]

theorem lookup_filter (keep : α → Bool) (k : α) (items : List (α × β)) :
    (items.filter fun a => keep a.1).lookup k = if keep k then items.lookup k else none := by
  induction items with
  | nil => simp
  | cons item items ih =>
      obtain ⟨key, value⟩ := item
      rw [List.filter_cons]
      cases hk : k == key with
      | true =>
          obtain rfl := eq_of_beq hk
          cases hkeep : keep k with
          | true => simp
          | false => simpa [hkeep] using ih
      | false =>
          cases keep key with
          | true => simpa [List.lookup_cons, hk] using ih
          | false => simpa [List.lookup_cons, hk] using ih

/-- Names in a row, each under its own key with what there is for it. -/
theorem lookup_filterMap {ι : Type} [BEq ι] [LawfulBEq ι] {key : ι → α}
    (distinct : ∀ i j, key i = key j → i = j) (f : ι → Option γ) (g : γ → β) (i : ι)
    (names : List ι) :
    (names.filterMap fun name => (f name).map fun c => (key name, g c)).lookup (key i) =
      if names.contains i then (f i).map g else none := by
  induction names with
  | nil => rfl
  | cons name names ih =>
      rw [List.filterMap_cons, List.contains_cons]
      cases hi : i == name with
      | true =>
          obtain rfl := eq_of_beq hi
          cases hf : f i with
          | none => simpa [hf] using ih
          | some c => simp
      | false =>
          have other : (key i == key name) = false :=
            beq_eq_false_iff_ne.2 fun same => beq_eq_false_iff_ne.1 hi (distinct _ _ same)
          cases f name with
          | none => simpa using ih
          | some c => simpa [List.lookup_cons, other] using ih

/-- A key that no two items share picks out a single item. -/
theorem filter_key_eq_singleton {key : β → α} {items : List β} (h : (items.map key).Nodup) {a : β}
    (ha : a ∈ items) : items.filter (key · == key a) = [a] := by
  induction items with
  | nil => cases ha
  | cons b items ih =>
      rw [List.map_cons, List.nodup_cons] at h
      obtain ⟨fresh, distinct⟩ := h
      rcases List.mem_cons.1 ha with rfl | ha
      · have others : items.filter (key · == key a) = [] := by
          rw [List.filter_eq_nil_iff]
          intro b hb same
          exact fresh (eq_of_beq same ▸ List.mem_map_of_mem hb)
        rw [List.filter_cons, if_pos (beq_self_eq_true _), others]
      · have other : ¬(key b == key a) = true := fun same =>
          fresh (eq_of_beq same ▸ List.mem_map_of_mem ha)
        rw [List.filter_cons, if_neg other, ih distinct ha]

end Transcoding
