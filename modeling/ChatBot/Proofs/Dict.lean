/-
  ChatBot.Proofs.Dict — the keys of a map, and what it holds under each.

  A map holds something under its keys only (`get?_eq_none`), and under a key that occurs
  once what the entry says (`get?_of_mem`). A new key goes to the end (`put_new`). Of the
  entries that a map is made from, the last for a key counts (`get?_ofList`). How many
  values have a property changes with the one key that is set or taken out
  (`countP_insert`, `countP_erase`). Maps that hold the same have the same entries
  (`perm_entries`), and are the same in the order of their keys (`sorted_congr`).
-/
import ChatBot.Dict

namespace ChatBot.Dict

variable {κ α : Type} [DecidableEq κ]

theorem put_new {key : κ} {value : α} {es : List (κ × α)} (h : es.lookup key = none) :
    put key value es = es ++ [(key, value)] := by
  induction es with
  | nil => rfl
  | cons e es ih =>
    rw [lookup_cons_if] at h
    split at h
    · cases h
    · rename_i hne
      rw [put, if_neg (fun he => hne he.symm), ih h, List.cons_append]

theorem mem_put {key : κ} {value : α} {es : List (κ × α)} {e : κ × α} (h : e ∈ put key value es) :
    e = (key, value) ∨ e ∈ es := by
  induction es with
  | nil => exact .inl (List.mem_singleton.mp h)
  | cons e' es ih =>
    rw [put] at h
    split at h
    · rcases List.mem_cons.mp h with h | h
      · exact .inl h
      · exact .inr (List.mem_cons_of_mem e' h)
    · rcases List.mem_cons.mp h with rfl | h
      · exact .inr List.mem_cons_self
      · exact (ih h).imp_right (List.mem_cons_of_mem e')

theorem get?_eq_none {d : Dict κ α} {key : κ} : d.get? key = none ↔ key ∉ d.keys := by
  refine List.lookup_eq_none_iff.trans ⟨fun h hm => ?_, fun h e he => bne_iff_ne.mpr ?_⟩
  · obtain ⟨e, he, rfl⟩ := List.mem_map.mp hm
    exact bne_iff_ne.mp (h e he) rfl
  · rintro rfl
    exact h (List.mem_map_of_mem he)

theorem mem_keys_insert {d : Dict κ α} {key other : κ} {value : α} :
    other ∈ (d.insert key value).keys ↔ other = key ∨ other ∈ d.keys := by
  rw [← Decidable.not_iff_not, ← get?_eq_none, get?_insert, not_or, ← get?_eq_none]
  by_cases h : other = key <;> simp [h]

theorem get?_of_mem {d : Dict κ α} (hn : d.keys.Nodup) {key : κ} {value : α} (h : (key, value) ∈ d.entries) :
    d.get? key = some value := by
  obtain ⟨es⟩ := d
  change (es.map Prod.fst).Nodup at hn
  change es.lookup key = some value
  replace h : (key, value) ∈ es := h
  induction es with
  | nil => cases h
  | cons e es ih =>
    rw [List.map_cons, List.nodup_cons] at hn
    rw [lookup_cons_if]
    rcases List.mem_cons.mp h with rfl | h
    · rw [if_pos rfl]
    · rw [if_neg, ih hn.2 h]
      rintro rfl
      exact hn.1 (List.mem_map.mpr ⟨_, h, rfl⟩)

/-- The last entry for a key counts. -/
theorem get?_ofList (es : List (κ × α)) (key : κ) : (ofList es).get? key = es.reverse.lookup key := by
  suffices ∀ d : Dict κ α, (es.foldl (fun d e => d.insert e.1 e.2) d).get? key =
      (es.reverse.lookup key).or (d.get? key) by
    rw [ofList, this, show (empty : Dict κ α).get? key = none from rfl, Option.or_none]
  induction es with
  | nil => exact fun d => rfl
  | cons e es ih =>
    intro d
    rw [List.foldl_cons, ih, List.reverse_cons, List.lookup_append, Option.or_assoc, get?_insert, lookup_cons_if]
    congr 1
    split <;> rfl

theorem get?_ofList_eq_none {es : List (κ × α)} {key : κ} (h : key ∉ es.map Prod.fst) : (ofList es).get? key = none := by
  rw [get?_ofList, List.lookup_eq_none_iff]
  intro e he
  refine bne_iff_ne.mpr ?_
  rintro rfl
  exact h (List.mem_map_of_mem (List.mem_reverse.mp he))

/-- Where all entries for a key say the same, that counts. -/
theorem get?_ofList_of_mem {es : List (κ × α)} {e : κ × α} (h : e ∈ es)
    (same : ∀ other ∈ es, other.1 = e.1 → other.2 = e.2) : (ofList es).get? e.1 = some e.2 := by
  rw [get?_ofList]
  cases hlookup : es.reverse.lookup e.1 with
  | none => exact absurd (List.lookup_eq_none_iff.mp hlookup e (List.mem_reverse.mpr h)) (by simp)
  | some value =>
    obtain ⟨before, after, hes, -⟩ := List.lookup_eq_some_iff.mp hlookup
    have hmem : (e.1, value) ∈ es := List.mem_reverse.mp (by simp [hes])
    exact congrArg some (same _ hmem rfl)

theorem get?_ofList_append (es later : List (κ × α)) (key : κ) :
    (ofList (es ++ later)).get? key = ((ofList later).get? key).or ((ofList es).get? key) := by
  rw [get?_ofList, get?_ofList, get?_ofList, List.reverse_append, List.lookup_append]

/-- Where every key occurs once, the order of the entries does not count. -/
theorem get?_ofList_of_nodup {es : List (κ × α)} (h : (es.map Prod.fst).Nodup) (key : κ) :
    (ofList es).get? key = es.lookup key := by
  rw [get?_ofList]
  have hreverse : ((⟨es.reverse⟩ : Dict κ α).keys).Nodup := by
    rw [keys, List.map_reverse]
    exact List.pairwise_reverse.mpr (h.imp Ne.symm)
  cases hlookup : es.lookup key with
  | some value =>
    obtain ⟨before, after, rfl, -⟩ := List.lookup_eq_some_iff.mp hlookup
    exact get?_of_mem hreverse (by simp)
  | none =>
    rw [List.lookup_eq_none_iff] at hlookup ⊢
    exact fun e he => hlookup e (List.mem_reverse.mp he)

theorem lookup_map {β : Type} (f : α → β) (es : List (κ × α)) (key : κ) :
    (es.map fun e => (e.1, f e.2)).lookup key = (es.lookup key).map f := by
  induction es with
  | nil => rfl
  | cons e es ih =>
    rw [List.map_cons, lookup_cons_if, lookup_cons_if, ih]
    split <;> rfl

/-! ## Counting values -/

theorem nodup_insert {d : Dict κ α} (h : d.keys.Nodup) (key : κ) (value : α) : (d.insert key value).keys.Nodup := by
  obtain ⟨es⟩ := d
  change (es.map Prod.fst).Nodup at h
  change ((put key value es).map Prod.fst).Nodup
  induction es with
  | nil => simp [put]
  | cons e es ih =>
    rw [List.map_cons, List.nodup_cons] at h
    rw [put]
    split
    · rename_i he
      rw [List.map_cons, List.nodup_cons]
      exact ⟨he ▸ h.1, h.2⟩
    · rename_i he
      rw [List.map_cons, List.nodup_cons]
      refine ⟨fun hm => ?_, ih h.2⟩
      rcases mem_keys_insert.mp (show e.1 ∈ ((⟨es⟩ : Dict κ α).insert key value).keys from hm) with hkey | hkey
      · exact he hkey
      · exact h.1 hkey

theorem nodup_ofList (es : List (κ × α)) : (ofList es).keys.Nodup := by
  suffices ∀ d : Dict κ α, d.keys.Nodup → (es.foldl (fun d e => d.insert e.1 e.2) d).keys.Nodup from
    this empty List.nodup_nil
  induction es with
  | nil => exact fun d h => h
  | cons e es ih => exact fun d h => ih _ (nodup_insert h e.1 e.2)

theorem nodup_erase {d : Dict κ α} (h : d.keys.Nodup) (key : κ) : (d.erase key).keys.Nodup :=
  h.sublist (List.filter_sublist.map Prod.fst)

/-- A new key leaves nothing behind when it is taken out again. -/
theorem erase_insert_new {d : Dict κ α} {key : κ} (h : d.get? key = none) (value : α) : (d.insert key value).erase key = d := by
  obtain ⟨es⟩ := d
  have hothers : ∀ e ∈ es, (e.1 != key) = true := by
    intro e he
    refine bne_iff_ne.mpr ?_
    rintro rfl
    exact get?_eq_none.mp h (List.mem_map_of_mem he)
  rw [insert, erase, put_new h, List.filter_append, List.filter_eq_self.mpr hothers, List.filter_cons_of_neg (by simp),
    List.filter_nil, List.append_nil]

theorem countP_insert (d : Dict κ α) (key : κ) (value : α) (p : α → Bool) :
    (d.insert key value).values.countP p + ((d.get? key).any p).toNat = d.values.countP p + (p value).toNat := by
  obtain ⟨es⟩ := d
  change ((put key value es).map Prod.snd).countP p + ((es.lookup key).any p).toNat =
    (es.map Prod.snd).countP p + (p value).toNat
  induction es with
  | nil => cases h : p value <;> simp [put, h]
  | cons e es ih =>
    rw [put, lookup_cons_if]
    by_cases he : e.1 = key
    · rw [if_pos he, if_pos he.symm]
      cases h : p value <;> cases h' : p e.2 <;> simp [h, h']
    · rw [if_neg he, if_neg (Ne.symm he), List.map_cons, List.map_cons, List.countP_cons, List.countP_cons]
      omega

/-- A key that occurs once is taken out with its value. -/
theorem countP_erase {d : Dict κ α} (h : d.keys.Nodup) (key : κ) (p : α → Bool) :
    (d.erase key).values.countP p + ((d.get? key).any p).toNat = d.values.countP p := by
  obtain ⟨es⟩ := d
  change (es.map Prod.fst).Nodup at h
  change ((es.filter fun e => e.1 != key).map Prod.snd).countP p + ((es.lookup key).any p).toNat =
    (es.map Prod.snd).countP p
  induction es with
  | nil => rfl
  | cons e es ih =>
    rw [List.map_cons, List.nodup_cons] at h
    rw [lookup_cons_if]
    by_cases he : e.1 = key
    · have hrest : es.filter (fun e => e.1 != key) = es := by
        refine List.filter_eq_self.mpr fun e' he' => bne_iff_ne.mpr fun heq => ?_
        exact h.1 (he ▸ heq ▸ List.mem_map_of_mem he')
      rw [List.filter_cons_of_neg (by simp [he]), hrest, if_pos he.symm, List.map_cons, List.countP_cons]
      cases h' : p e.2 <;> simp [h']
    · rw [List.filter_cons_of_pos (by simp [he]), if_neg (Ne.symm he), List.map_cons, List.map_cons,
        List.countP_cons, List.countP_cons]
      have := ih h.2
      omega

/-! ## What tells maps apart -/

theorem mem_entries_iff {d : Dict κ α} (h : d.keys.Nodup) {e : κ × α} : e ∈ d.entries ↔ d.get? e.1 = some e.2 := by
  refine ⟨get?_of_mem h, fun hget => ?_⟩
  obtain ⟨before, after, hd, -⟩ := List.lookup_eq_some_iff.mp hget
  rw [hd]
  simp

/-- Maps that hold the same have the same entries. -/
theorem perm_entries {d d' : Dict κ α} (h : d.keys.Nodup) (h' : d'.keys.Nodup) (same : ∀ key, d.get? key = d'.get? key) :
    d.entries.Perm d'.entries := by
  have hnodup {d : Dict κ α} (h : d.keys.Nodup) : d.entries.Nodup :=
    List.Pairwise.of_map Prod.fst (fun _ _ hne he => hne (congrArg Prod.fst he)) h
  refine (List.perm_ext_iff_of_nodup (hnodup h) (hnodup h')).mpr fun e => ?_
  rw [mem_entries_iff h, mem_entries_iff h', same]

/-- Maps that hold the same are the same in the order of their keys. -/
theorem sorted_congr {d d' : Dict String α} (h : d.keys.Nodup) (h' : d'.keys.Nodup)
    (same : ∀ key, d.get? key = d'.get? key) : d.sorted = d'.sorted := by
  have hordered (es : List (String × α)) :
      (es.mergeSort fun a b => a.1 ≤ b.1).Pairwise fun a b => decide (a.1 ≤ b.1) = true := by
    refine List.pairwise_mergeSort (fun a b c hab hbc => ?_) (fun a b => ?_) es
    · exact decide_eq_true (String.le_trans (of_decide_eq_true hab) (of_decide_eq_true hbc))
    · rw [Bool.or_eq_true, decide_eq_true_eq, decide_eq_true_eq]
      exact String.le_total a.1 b.1
  have hperm := perm_entries h h' same
  refine List.Perm.eq_of_pairwise (fun a b ha hb hab hba => ?_) (hordered d.entries) (hordered d'.entries)
    (((List.mergeSort_perm _ _).trans hperm).trans (List.mergeSort_perm _ _).symm)
  have hkey : a.1 = b.1 := String.le_antisymm (of_decide_eq_true hab) (of_decide_eq_true hba)
  have ha := (mem_entries_iff h').mp (hperm.mem_iff.mp ((List.mergeSort_perm _ _).mem_iff.mp ha))
  have hb := (mem_entries_iff h').mp ((List.mergeSort_perm _ _).mem_iff.mp hb)
  rw [hkey, hb] at ha
  exact Prod.ext hkey (Option.some.inj ha).symm

/-- Of entries for different keys the order does not count. -/
theorem get?_ofList_perm {es es' : List (κ × α)} (perm : es.Perm es') (h : (es.map Prod.fst).Nodup) (key : κ) :
    (ofList es).get? key = (ofList es').get? key := by
  have h' : (es'.map Prod.fst).Nodup := (perm.map Prod.fst).nodup_iff.mp h
  rw [get?_ofList_of_nodup h, get?_ofList_of_nodup h']
  refine Option.ext fun value => ?_
  have hmem : (key, value) ∈ es ↔ es.lookup key = some value := mem_entries_iff (d := ⟨es⟩) h
  have hmem' : (key, value) ∈ es' ↔ es'.lookup key = some value := mem_entries_iff (d := ⟨es'⟩) h'
  rw [← hmem, ← hmem', perm.mem_iff]

end ChatBot.Dict
