import PocketShell.OrderedMap

/-!
Maps by what they give for a key. An insertion or an erasure concerns one key and keeps all keys
different; and a map with different keys is made again from its entries, in their order.
-/

namespace PocketShell.OrderedMap

variable {α β : Type} [DecidableEq α]

theorem find?_insertEntry (key other : α) (value : β) (entries : List (α × β)) :
    ((insertEntry key value entries).find? (·.1 = other)).map Prod.snd =
      if key = other then some value else (entries.find? (·.1 = other)).map Prod.snd := by
  induction entries with
  | nil =>
      by_cases h : key = other <;> simp [insertEntry, h]
  | cons entry rest ih =>
      obtain ⟨k, v⟩ := entry
      by_cases hk : k = key
      · subst hk
        by_cases h : k = other <;> simp [insertEntry, h]
      · simp only [insertEntry, hk, if_false, List.find?_cons]
        by_cases ho : k = other
        · simp [ho, show ¬key = other from fun he => hk (ho.trans he.symm)]
        · simpa [ho] using ih

theorem get?_insert (m : OrderedMap α β) (key other : α) (value : β) :
    (m.insert key value).get? other = if key = other then some value else m.get? other :=
  find?_insertEntry key other value m.toList

theorem get?_erase (m : OrderedMap α β) (key other : α) :
    (m.erase key).get? other = if key = other then none else m.get? other := by
  simp only [get?, erase, List.find?_filter]
  split
  · next same =>
    subst same
    simp
  · next ne =>
    congr 2
    funext entry
    by_cases here : entry.1 = other
    · simp [here, Ne.symm ne]
    · simp [here]

theorem contains_eq_false_iff {m : OrderedMap α β} {key : α} :
    m.contains key = false ↔ key ∉ m.keys := by
  simp only [contains, get?, keys, Option.isSome_map, Option.isSome_eq_false_iff,
    Option.isNone_iff_eq_none, List.find?_eq_none, decide_eq_true_eq, List.mem_map, not_exists,
    not_and]

theorem erase_of_not_mem {m : OrderedMap α β} {key : α} (absent : key ∉ m.keys) :
    m.erase key = m := by
  have others : m.toList.filter (·.1 ≠ key) = m.toList := by
    refine List.filter_eq_self.mpr fun entry mem => ?_
    have ne : entry.1 ≠ key := fun same => absent (same ▸ List.mem_map_of_mem mem)
    simpa using ne
  rw [erase, others]

theorem mem_insertEntry {key : α} {value : β} {entries : List (α × β)} {entry : α × β}
    (mem : entry ∈ insertEntry key value entries) : entry = (key, value) ∨ entry ∈ entries := by
  induction entries with
  | nil => exact .inl (List.mem_singleton.mp mem)
  | cons first rest ih =>
      simp only [insertEntry] at mem
      split at mem
      · exact (List.mem_cons.mp mem).imp_right (List.mem_cons_of_mem first)
      · rcases List.mem_cons.mp mem with rfl | below
        · exact .inr List.mem_cons_self
        · exact (ih below).imp_right (List.mem_cons_of_mem first)

theorem insertEntry_of_not_mem {key : α} (value : β) {entries : List (α × β)}
    (absent : key ∉ entries.map Prod.fst) :
    insertEntry key value entries = entries ++ [(key, value)] := by
  induction entries with
  | nil => rfl
  | cons entry rest ih =>
      rw [List.map_cons, List.mem_cons, not_or] at absent
      simp [insertEntry, Ne.symm absent.1, ih absent.2]

theorem map_fst_insertEntry_of_mem {key : α} (value : β) {entries : List (α × β)}
    (there : key ∈ entries.map Prod.fst) :
    (insertEntry key value entries).map Prod.fst = entries.map Prod.fst := by
  induction entries with
  | nil => cases there
  | cons entry rest ih =>
      by_cases here : entry.1 = key
      · simp [insertEntry, here]
      · have below : key ∈ rest.map Prod.fst := by
          rcases List.mem_cons.mp there with same | below
          · exact absurd same.symm here
          · exact below
        simp [insertEntry, here, ih below]

theorem nodup_insert {m : OrderedMap α β} (different : m.keys.Nodup) (key : α) (value : β) :
    (m.insert key value).keys.Nodup := by
  by_cases there : key ∈ m.keys
  · rwa [keys, insert, map_fst_insertEntry_of_mem value there]
  · rw [keys, insert, insertEntry_of_not_mem value there, List.map_append, List.nodup_append]
    refine ⟨different, by simp, fun other mem last here same => there ?_⟩
    have last_eq : last = key := List.mem_singleton.mp here
    exact last_eq ▸ same ▸ mem

theorem nodup_erase {m : OrderedMap α β} (different : m.keys.Nodup) (key : α) :
    (m.erase key).keys.Nodup :=
  different.sublist (List.filter_sublist.map Prod.fst)

theorem nodup_ofList (entries : List (α × β)) : (ofList entries).keys.Nodup := by
  have onto (m : OrderedMap α β) (different : m.keys.Nodup) :
      (entries.foldl (fun m entry => m.insert entry.1 entry.2) m).keys.Nodup := by
    induction entries generalizing m with
    | nil => exact different
    | cons entry rest ih => exact ih _ (nodup_insert different entry.1 entry.2)
  exact onto empty List.nodup_nil

theorem ofList_toList {m : OrderedMap α β} (different : m.keys.Nodup) : ofList m.toList = m := by
  -- the entries that have been inserted so far stand before those to come
  have onto (done rest : List (α × β)) (different : ((done ++ rest).map Prod.fst).Nodup) :
      rest.foldl (fun (m : OrderedMap α β) entry => m.insert entry.1 entry.2) ⟨done⟩ =
        ⟨done ++ rest⟩ := by
    induction rest generalizing done with
    | nil => simp
    | cons entry rest ih =>
        have absent : entry.1 ∉ done.map Prod.fst := by
          rw [List.map_append, List.nodup_append] at different
          exact fun mem => different.2.2 _ mem _ (List.mem_map_of_mem List.mem_cons_self) rfl
        rw [List.foldl_cons, insert, insertEntry_of_not_mem entry.2 absent]
        simpa using ih (done ++ [entry]) (by simpa using different)
  exact onto [] m.toList different

end PocketShell.OrderedMap
