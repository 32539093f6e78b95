import CrossEntropy.Search.Stage

namespace CrossEntropy
variable {P α S G σ : Type} [Score S]

@[ext] structure Best (α S : Type) where
  score : S
  sample : Option (Tensor α)

namespace Best

def see (track : Bool) (best : Best α S) (scored : Tensor α × S) : Best α S :=
  if track = true ∧ scored.2 < best.score then ⟨scored.2, some scored.1⟩ else best

def seeAll (track : Bool) (best : Best α S) (scored : List (Tensor α × S)) : Best α S :=
  scored.foldl (see track) best

@[simp] theorem seeAll_nil (track : Bool) (best : Best α S) : best.seeAll track [] = best := rfl

@[simp] theorem seeAll_cons (track : Bool) (best : Best α S) (pair : Tensor α × S)
    (scored : List (Tensor α × S)) :
    best.seeAll track (pair :: scored) = (best.see track pair).seeAll track scored := rfl

theorem seeAll_append (track : Bool) (best : Best α S) (first rest : List (Tensor α × S)) :
    best.seeAll track (first ++ rest) = (best.seeAll track first).seeAll track rest :=
  List.foldl_append

@[simp] theorem seeAll_false (best : Best α S) (scored : List (Tensor α × S)) :
    best.seeAll false scored = best := by
  induction scored with
  | nil => rfl
  | cons pair scored ih => simpa [see] using ih

end Best

namespace Session

def best (s : Session P α S G σ) : Best α S := ⟨s.state.bestScore, s.bestSample⟩

def withBest (s : Session P α S G σ) (best : Best α S) : Session P α S G σ :=
  { s with state := { s.state with bestScore := best.score }, bestSample := best.sample }

def withScores (s : Session P α S G σ) (minScore eliteScore : Option S) : Session P α S G σ :=
  { s with state := { s.state with minScore, eliteScore } }

def withMemory (s : Session P α S G σ) (memory : σ) : Session P α S G σ := { s with memory }

def adopting (s : Session P α S G σ) (params : P) : Session P α S G σ :=
  { s with state := { s.state with params, numIters := s.state.numIters + 1 } }

end Session

namespace Journal

/-- What scoring samples one after another writes, the first of them being the one of this number. -/
def scoring (track : Bool) : Best α S → Nat → List (Tensor α × S) → Journal P α S
  | _, _, [] => []
  | best, index, pair :: scored =>
      .score index pair.1 (.ok pair.2) ::
        ((if track = true ∧ pair.2 < best.score then [.log (.newMinimum index pair.2)] else []) ++
          scoring track (best.see track pair) (index + 1) scored)

theorem scoring_append (track : Bool) (best : Best α S) (index : Nat) (first rest : List (Tensor α × S)) :
    scoring (P := P) track best index (first ++ rest) =
      scoring track best index first ++
        scoring track (best.seeAll track first) (index + first.length) rest := by
  induction first generalizing best index with
  | nil => rfl
  | cons pair first ih =>
      rw [List.cons_append, scoring, ih, scoring, List.length_cons, Best.seeAll_cons, Nat.add_assoc,
        Nat.add_comm 1, List.cons_append, List.append_assoc]

def calls (journal : Journal P α S) : Journal P α S :=
  journal.filter fun | .log _ => false | _ => true

def scoreCalls (index : Nat) (scored : List (Tensor α × S)) : Journal P α S :=
  (scored.zipIdx index).map fun (pair, k) => .score k pair.1 (.ok pair.2)

omit [Score S] in
theorem scoreCalls_cons (index : Nat) (pair : Tensor α × S) (scored : List (Tensor α × S)) :
    (scoreCalls index (pair :: scored) : Journal P α S) =
      .score index pair.1 (.ok pair.2) :: scoreCalls (index + 1) scored := rfl

def scored (journal : Journal P α S) : List (Tensor α × S) :=
  journal.filterMap fun
    | .score _ sample (.ok score) => if Score.isNaN score then none else some (sample, score)
    | _ => none

section Reading
variable {β : Type} {read : Entry P α S → Option β}

omit [Score S] in
theorem filterMap_map_log (unread : ∀ note, read (.log note) = none) (notes : List (LogRecord S)) :
    (notes.map .log : Journal P α S).filterMap read = [] := by
  induction notes with
  | nil => rfl
  | cons note notes ih => rw [List.map_cons, List.filterMap_cons_none (unread note), ih]

theorem filterMap_scoring (unread : ∀ note, read (.log note) = none) (track : Bool) (best : Best α S)
    (index : Nat) (scored : List (Tensor α × S)) :
    (scoring track best index scored).filterMap read = (scoreCalls index scored).filterMap read := by
  induction scored generalizing best index with
  | nil => rfl
  | cons pair scored ih =>
      have rest := ih (best.see track pair) (index + 1)
      rw [scoring, scoreCalls_cons, List.filterMap_cons, List.filterMap_cons, List.filterMap_append, rest]
      by_cases better : track = true ∧ pair.2 < best.score
      · rw [if_pos better]
        simp [unread]
      · rw [if_neg better]
        rfl

end Reading

omit [Score S] in
theorem calls_eq_filterMap (journal : Journal P α S) :
    calls journal = journal.filterMap (Option.guard fun | .log _ => false | _ => true) :=
  List.filterMap_eq_filter.symm ▸ rfl

omit [Score S] in
@[simp] theorem calls_append (first rest : Journal P α S) : calls (first ++ rest) = calls first ++ calls rest :=
  List.filter_append ..

omit [Score S] in
@[simp] theorem calls_map_log (notes : List (LogRecord S)) :
    calls (notes.map .log : Journal P α S) = [] := by
  rw [calls_eq_filterMap, filterMap_map_log fun _ => rfl]

theorem calls_scoring (track : Bool) (best : Best α S) (index : Nat) (scored : List (Tensor α × S)) :
    calls (scoring (P := P) track best index scored) = scoreCalls index scored := by
  rw [calls_eq_filterMap, filterMap_scoring fun _ => rfl, ← calls_eq_filterMap, calls, List.filter_eq_self]
  intro entry member
  obtain ⟨_, _, rfl⟩ := List.mem_map.1 member
  rfl

@[simp] theorem scored_append (first rest : Journal P α S) :
    scored (first ++ rest) = scored first ++ scored rest :=
  List.filterMap_append ..

theorem scored_calls (journal : Journal P α S) : journal.calls.scored = journal.scored := by
  rw [scored, calls, List.filterMap_filter]
  exact congrArg (List.filterMap · journal) (funext fun entry => by cases entry <;> rfl)

@[simp] theorem scored_map_log (notes : List (LogRecord S)) :
    scored (notes.map .log : Journal P α S) = [] :=
  filterMap_map_log (fun _ => rfl) notes

theorem scored_scoring {track : Bool} {best : Best α S} {index : Nat} {pairs : List (Tensor α × S)}
    (number : ∀ pair ∈ pairs, Score.isNaN pair.2 = false) :
    scored (scoring (P := P) track best index pairs) = pairs := by
  rw [scored, filterMap_scoring fun _ => rfl]
  induction pairs generalizing index with
  | nil => rfl
  | cons pair pairs ih =>
      have first : Score.isNaN pair.2 = false := number pair (.head _)
      rw [scoreCalls_cons, List.filterMap_cons_some, ih fun q member => number q (.tail _ member)]
      exact if_neg (by simp [first])

omit [Score S] in
@[simp] theorem events_append (first rest : Journal P α S) :
    events (first ++ rest) = events first ++ events rest :=
  List.filterMap_append ..

omit [Score S] in
@[simp] theorem events_map_log (notes : List (LogRecord S)) :
    events (notes.map .log : Journal P α S) = [] :=
  filterMap_map_log (fun _ => rfl) notes

@[simp] theorem events_scoring (track : Bool) (best : Best α S) (index : Nat) (scored : List (Tensor α × S)) :
    events (scoring (P := P) track best index scored) = [] := by
  rw [events, filterMap_scoring fun _ => rfl]
  simp [scoreCalls]

end Journal
end CrossEntropy
