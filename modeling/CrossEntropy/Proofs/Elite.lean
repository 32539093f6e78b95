import CrossEntropy.Proofs.Rows
import CrossEntropy.Search.Elite

namespace CrossEntropy.Elite
variable {S β α : Type} [Score S] {scores : List S}

def within (bound : S) (entries : List β) (scores : List S) : List β :=
  ((entries.zip scores).filter fun pair => pair.2 ≤ bound).map Prod.fst

theorem length_sorted (scores : List S) : (sorted scores).length = scores.length :=
  List.length_mergeSort scores

theorem ofRank?_of_pairwise (sorts : scores.Pairwise fun x y => Score.sortLe x y = true) (k : Nat) :
    ofRank? scores (k + 1) = scores[k]? := by
  rw [ofRank?, sorted, List.mergeSort_of_pairwise sorts]

theorem exists_ofRank? {k : Nat} (pos : 0 < k) (le : k ≤ scores.length) :
    ∃ score, ofRank? scores k = some score := by
  cases k with
  | zero => omega
  | succ k =>
      have lt : k < (sorted scores).length := by rw [length_sorted]; omega
      exact ⟨_, List.getElem?_eq_getElem lt⟩

theorem exists_select? {numElite : Nat} (pos : 0 < numElite) (le : numElite ≤ scores.length) :
    ∃ elite, select? scores numElite = some elite := by
  obtain ⟨low, hlow⟩ := exists_ofRank? (k := 1) (by omega) (show 1 ≤ scores.length by omega)
  obtain ⟨bound, hbound⟩ := exists_ofRank? pos le
  exact ⟨⟨low, bound, admitted scores bound⟩, by simp [select?, hlow, hbound]⟩

theorem select?_of_pairwise (sorts : scores.Pairwise fun x y => Score.sortLe x y = true) {k : Nat} {low bound : S}
    (least : scores[0]? = some low) (ranked : scores[k]? = some bound) :
    select? scores (k + 1) = some ⟨low, bound, admitted scores bound⟩ := by
  simp [select?, ofRank?_of_pairwise sorts, least, ranked]

theorem indices_of_select? {numElite : Nat} {elite : Elite S}
    (h : select? scores numElite = some elite) : elite.indices = admitted scores elite.eliteScore := by
  simp only [select?, Option.bind_eq_bind, Option.bind_eq_some_iff, Option.pure_def,
    Option.some.injEq] at h
  obtain ⟨_, _, _, _, rfl⟩ := h
  rfl

theorem eliteScore_mem_of_select? {numElite : Nat} {elite : Elite S}
    (h : select? scores numElite = some elite) : elite.eliteScore ∈ scores := by
  simp only [select?, Option.bind_eq_bind, Option.bind_eq_some_iff, Option.pure_def,
    Option.some.injEq] at h
  obtain ⟨_, -, bound, ranked, rfl⟩ := h
  cases numElite with
  | zero => cases ranked
  | succ k => exact List.mem_mergeSort.1 (List.mem_of_getElem? ranked)

theorem mapM_admitted_behind (before entries : List β) (bound : S)
    (same : entries.length = scores.length) :
    ((scores.zipIdx before.length).filterMap fun (score, i) =>
        if score ≤ bound then some i else none).mapM ((before ++ entries)[·]?) =
      some (within bound entries scores) := by
  induction entries generalizing before scores with
  | nil =>
      obtain rfl : scores = [] := List.eq_nil_of_length_eq_zero same.symm
      rfl
  | cons x entries ih =>
      cases scores with
      | nil => cases same
      | cons score scores =>
          have same : entries.length = scores.length := Nat.succ.inj same
          have rest := ih (before ++ [x]) same
          rw [List.length_append, List.length_singleton, List.append_assoc,
            List.singleton_append] at rest
          simp only [List.zipIdx_cons, List.filterMap_cons, within, List.zip_cons_cons] at rest ⊢
          by_cases admits : score ≤ bound <;> simp [admits, rest]

theorem mapM_admitted {entries : List β} (bound : S) (same : entries.length = scores.length) :
    (admitted scores bound).mapM (entries[·]?) = some (within bound entries scores) :=
  mapM_admitted_behind [] entries bound same

theorem mem_of_mem_within {bound : S} {entries : List β} {x : β} (h : x ∈ within bound entries scores) :
    x ∈ entries := by
  obtain ⟨pair, member, rfl⟩ := List.mem_map.1 h
  exact (List.of_mem_zip (List.mem_filter.1 member).1).1

theorem within_ne_nil {bound : S} {entries : List β} (same : entries.length = scores.length)
    (member : bound ∈ scores) (admits : bound ≤ bound) : within bound entries scores ≠ [] := by
  obtain ⟨k, inside, rfl⟩ := List.getElem_of_mem member
  have paired : (entries[k], scores[k]) ∈ entries.zip scores :=
    List.mem_iff_getElem.2 ⟨k, by simp [same, inside], by simp⟩
  exact List.ne_nil_of_mem (List.mem_map_of_mem (List.mem_filter.2 ⟨paired, decide_eq_true admits⟩))

theorem selectRows?_admitted {batch : Tensor α} (bound : S) (same : scores.length = batch.extent 0) :
    ∃ chosen, batch.selectRows? (admitted scores bound) = some chosen ∧
      chosen.rows = within bound batch.rows scores ∧
      chosen.shape = (within bound batch.rows scores).length :: batch.shape.tail :=
  Tensor.selectRows?_of_mapM (mapM_admitted bound (batch.length_rows.trans same.symm))
    fun _ h => mem_of_mem_within h

end CrossEntropy.Elite
