import Mathlib.Data.List.Forall2

namespace Concord.Traversal

/-! Lists whose items are read one after the other until one of them is at fault. -/

theorem bind_eq_ok_iff {read : Except ε α} {next : α → Except ε β} {result : β} :
    (read >>= next) = .ok result ↔ ∃ value, read = .ok value ∧ next value = .ok result := by
  cases read with
  | error fault => simp [bind, Except.bind]
  | ok value => simp [bind, Except.bind]

theorem return_eq_error_iff {read : Except ε α} {f : α → β} {fault : ε} :
    (do return f (← read)) = Except.error fault ↔ read = .error fault := by
  cases read <;> simp [bind, Except.bind, pure, Except.pure]

theorem mapError_eq_ok_iff {read : Except ε α} {f : ε → δ} {value : α} :
    read.mapError f = .ok value ↔ read = .ok value := by
  cases read <;> simp [Except.mapError]

theorem mapM_eq_ok_iff {read : α → Except ε β} {items : List α} {results : List β} :
    items.mapM read = .ok results ↔
      List.Forall₂ (fun item result => read item = .ok result) items results := by
  induction items generalizing results with
  | nil =>
      rw [List.forall₂_nil_left_iff]
      simp [pure, Except.pure, eq_comm]
  | cons item rest ih =>
      rw [List.mapM_cons, bind_eq_ok_iff, List.forall₂_cons_left_iff]
      constructor
      · intro whole
        obtain ⟨first, found, tail⟩ := whole
        obtain ⟨later, laterFound, whole⟩ := bind_eq_ok_iff.mp tail
        cases whole
        exact ⟨first, later, found, ih.mp laterFound, rfl⟩
      · intro parts
        obtain ⟨first, later, found, laterFound, rfl⟩ := parts
        refine ⟨first, found, bind_eq_ok_iff.mpr ⟨later, ih.mpr laterFound, rfl⟩⟩

theorem exists_mapM_eq_ok_iff {read : α → Except ε β} {items : List α} :
    (∃ results, items.mapM read = .ok results) ↔ ∀ item ∈ items, ∃ result, read item = .ok result := by
  simp only [mapM_eq_ok_iff]
  induction items with
  | nil => simp
  | cons item rest ih =>
      rw [List.forall_mem_cons, ← ih]
      constructor
      · intro whole
        obtain ⟨_, each⟩ := whole
        cases each with
        | cons found later => exact ⟨⟨_, found⟩, _, later⟩
      · intro parts
        obtain ⟨⟨first, found⟩, results, later⟩ := parts
        exact ⟨first :: results, .cons found later⟩

/-- The reading stops at the first item at fault, with its fault. -/
theorem mapM_eq_error_iff {read : α → Except ε β} {items : List α} {fault : ε} :
    items.mapM read = .error fault ↔
      ∃ before item after, items = before ++ item :: after ∧
        (∀ earlier ∈ before, ∃ result, read earlier = .ok result) ∧ read item = .error fault := by
  induction items with
  | nil => simp [pure, Except.pure]
  | cons head rest ih =>
      rw [List.mapM_cons]
      cases first : read head with
      | error other =>
          constructor
          · intro failed
            cases failed
            exact ⟨[], head, rest, rfl, by simp, first⟩
          · intro stopped
            obtain ⟨before, item, after, split, sound, failed⟩ := stopped
            cases before with
            | nil =>
                obtain ⟨rfl, rfl⟩ := List.cons.inj split
                cases first.symm.trans failed
                rfl
            | cons earlier before =>
                obtain ⟨rfl, _⟩ := List.cons.inj split
                obtain ⟨result, found⟩ := sound head List.mem_cons_self
                cases first.symm.trans found
      | ok result =>
          refine return_eq_error_iff.trans (ih.trans ?_)
          constructor
          · intro stopped
            obtain ⟨before, item, after, rfl, sound, failed⟩ := stopped
            refine ⟨head :: before, item, after, rfl, ?_, failed⟩
            simpa [first] using sound
          · intro stopped
            obtain ⟨before, item, after, split, sound, failed⟩ := stopped
            cases before with
            | nil =>
                obtain ⟨rfl, rfl⟩ := List.cons.inj split
                cases first.symm.trans failed
            | cons earlier before =>
                obtain ⟨_, rfl⟩ := List.cons.inj split
                exact ⟨before, item, after, rfl,
                  fun earlier member => sound earlier (List.mem_cons_of_mem _ member), failed⟩

theorem exists_of_forall₂ {answers : α → β → Prop} {items : List α} {results : List β}
    (each : List.Forall₂ answers items results) {result : β} (member : result ∈ results) :
    ∃ item ∈ items, answers item result := by
  induction each with
  | nil => cases member
  | cons found _ ih =>
      rcases List.mem_cons.mp member with rfl | later
      · exact ⟨_, List.mem_cons_self, found⟩
      · obtain ⟨item, stands, found⟩ := ih later
        exact ⟨item, List.mem_cons_of_mem _ stands, found⟩

/-- If exactly the kept items are read, the results answer the kept items one by one, in order. -/
theorem forall₂_filter_filterMap {keep : α → Bool} {read : α → Option β} {answers : α → β → Prop}
    (kept : ∀ item, keep item = true → ∃ result, read item = some result ∧ answers item result)
    (dropped : ∀ item, keep item = false → read item = none) (items : List α) :
    List.Forall₂ answers (items.filter keep) (items.filterMap read) := by
  induction items with
  | nil => exact .nil
  | cons item rest ih =>
      cases chosen : keep item with
      | true =>
          obtain ⟨result, found, answered⟩ := kept item chosen
          rw [List.filter_cons_of_pos chosen, List.filterMap_cons_some found]
          exact .cons answered ih
      | false =>
          rw [List.filter_cons_of_neg (Bool.not_eq_true _ ▸ chosen),
            List.filterMap_cons_none (dropped item chosen)]
          exact ih

end Concord.Traversal
