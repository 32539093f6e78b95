import CrossEntropy.Proofs.BestEver
import CrossEntropy.Proofs.Indistinguishable
import CrossEntropy.Proofs.SortedScores
import CrossEntropy.Search.Stock

namespace CrossEntropy
variable {P α G σ : Type} {g : Float → Float}

/-- Translations of scores that keep numbers, their order, and what no score is worse than. -/
structure KeepsRanks (g : Float → Float) : Prop where
  isNaN : ∀ x, (g x).isNaN = x.isNaN
  le : ∀ {x y}, x.isNaN = false → y.isNaN = false → (x ≤ y ↔ g x ≤ g y)
  infinity : g (1.0 / 0.0) = 1.0 / 0.0

def Translated (g : Float → Float) (x y : Float) : Prop := (y == g x) = true

structure State.SameRanks (g : Float → Float) (s t : State P Float) : Prop where
  params : t.params = s.params
  settings : t.settings = s.settings
  numIters : t.numIters = s.numIters
  minScore : Option.Rel (Translated g) s.minScore t.minScore
  eliteScore : Option.Rel (Translated g) s.eliteScore t.eliteScore
  bestScore : Translated g s.bestScore t.bestScore

structure Event.SameRanks (g : Float → Float) (event event' : Event P Float) : Prop where
  iter : event'.iter = event.iter
  minScore : Translated g event.minScore event'.minScore
  eliteScore : Translated g event.eliteScore event'.eliteScore
  eliteCount : event'.eliteCount = event.eliteCount
  bestScore : Translated g event.bestScore event'.bestScore
  params : event'.params = event.params

theorem number_of_beq {x y : Float} (eq : (x == y) = true) : x.isNaN = false ∧ y.isNaN = false := by
  by_cases nan : x.isNaN = true ∨ y.isNaN = true
  · change (x.toModel.compare y.toModel == some .eq) = true at eq
    rw [compare_of_isNaN nan] at eq
    cases eq
  · simpa using nan

namespace KeepsRanks
variable {x y x' y' : Float}

theorem translated_iff (keeps : KeepsRanks g) :
    Translated g x y ↔ x.isNaN = false ∧ y.isNaN = false ∧ floatPlace y = floatPlace (g x) := by
  constructor
  · intro same
    obtain ⟨hy, hx⟩ := number_of_beq same
    exact ⟨(keeps.isNaN x).symm.trans hx, hy, (beq_iff_place hy hx).1 same⟩
  · rintro ⟨hx, hy, same⟩
    exact (beq_iff_place hy ((keeps.isNaN x).trans hx)).2 same

theorem place_le_iff (keeps : KeepsRanks g) (hx : x.isNaN = false) (hx' : x'.isNaN = false) :
    floatPlace (g x) ≤ floatPlace (g x') ↔ floatPlace x ≤ floatPlace x' := by
  rw [← le_iff_place hx hx', keeps.le hx hx', le_iff_place ((keeps.isNaN x).trans hx) ((keeps.isNaN x').trans hx')]

theorem le_iff (keeps : KeepsRanks g) (first : Translated g x y) (second : Translated g x' y') :
    y ≤ y' ↔ x ≤ x' := by
  obtain ⟨hx, hy, place⟩ := keeps.translated_iff.1 first
  obtain ⟨hx', hy', place'⟩ := keeps.translated_iff.1 second
  rw [le_iff_place hy hy', le_iff_place hx hx', place, place', keeps.place_le_iff hx hx']

theorem lt_iff (keeps : KeepsRanks g) (first : Translated g x y) (second : Translated g x' y') :
    y < y' ↔ x < x' := by
  obtain ⟨hx, hy, place⟩ := keeps.translated_iff.1 first
  obtain ⟨hx', hy', place'⟩ := keeps.translated_iff.1 second
  rw [lt_iff_place hy hy', lt_iff_place hx hx', place, place', ← Int.not_le, keeps.place_le_iff hx' hx, Int.not_le]

theorem places (keeps : KeepsRanks g) {xs ys : List Float} (related : List.Forall₂ (Translated g) xs ys) :
    (∀ x ∈ xs, x.isNaN = false) ∧ (∀ y ∈ ys, y.isNaN = false) ∧
      xs.map (fun x => floatPlace (g x)) = ys.map floatPlace := by
  induction related with
  | nil => simp
  | cons first _ ih =>
      obtain ⟨hx, hy, place⟩ := keeps.translated_iff.1 first
      obtain ⟨number, number', rest⟩ := ih
      refine ⟨List.forall_mem_cons.2 ⟨hx, number⟩, List.forall_mem_cons.2 ⟨hy, number'⟩, ?_⟩
      rw [List.map_cons, List.map_cons, place, rest]

theorem ofRank? (keeps : KeepsRanks g) {xs ys : List Float} (related : List.Forall₂ (Translated g) xs ys) (k : Nat) :
    Option.Rel (Translated g) (Elite.ofRank? xs k) (Elite.ofRank? ys k) := by
  obtain ⟨number, number', places⟩ := keeps.places related
  have sorts : (Elite.sorted xs).map (fun x => floatPlace (g x)) = (Elite.sorted ys).map floatPlace := by
    apply Elite.map_sorted_eq
    · rw [places]
    · exact fun x hx x' hx' le => (keeps.place_le_iff (number x hx) (number x' hx')).2 (floatPlace_le_of_sortLe le)
    · exact fun y _ y' _ le => floatPlace_le_of_sortLe le
  have ranks := Elite.ofRank?_map_eq sorts k
  rcases ranked : Elite.ofRank? xs k with _ | x <;> rcases ranked' : Elite.ofRank? ys k with _ | y <;>
    rw [ranked, ranked'] at ranks
  · exact .none
  · cases ranks
  · cases ranks
  · have hx := number x (Elite.mem_of_ofRank? ranked)
    have hy := number' y (Elite.mem_of_ofRank? ranked')
    exact .some (keeps.translated_iff.2 ⟨hx, hy, (Option.some.inj ranks).symm⟩)

theorem admitted (keeps : KeepsRanks g) {xs ys : List Float} (related : List.Forall₂ (Translated g) xs ys)
    (bounds : Translated g x y) : Elite.admitted ys y = Elite.admitted xs x :=
  Elite.admitted_congr (related.imp fun _ _ first => keeps.le_iff first bounds)

theorem graded (keeps : KeepsRanks g) : Score.Graded (Translated g) where
  lt := keeps.lt_iff
  select := by
    intro xs ys related k
    have low := keeps.ofRank? related 1
    have bound := keeps.ofRank? related k
    rw [Elite.select?, Elite.select?]
    generalize Elite.ofRank? xs 1 = a at low ⊢
    generalize Elite.ofRank? ys 1 = b at low ⊢
    generalize Elite.ofRank? xs k = c at bound ⊢
    generalize Elite.ofRank? ys k = d at bound ⊢
    cases low with
    | none => exact .none
    | some low =>
        cases bound with
        | none => exact .none
        | some bound => exact .some ⟨low, bound, keeps.admitted related bound⟩

theorem unaware (keeps : KeepsRanks g) {strategies : Strategies P α Float G σ}
    (sees : strategies.SeesOnly fun s => (s.params, s.settings, s.numIters)) :
    strategies.Unaware g (Translated g) (fun s => (s.params, s.settings, s.numIters)) (State.SameRanks g) where
  graded := keeps.graded
  isNaN := keeps.isNaN
  translated number := keeps.translated_iff.2 ⟨number, (keeps.isNaN _).trans number, rfl⟩
  sees := sees
  view same := by rw [same.params, same.settings, same.numIters]
  numSamples same := congrArg Settings.numSamples same.settings
  numElite same := congrArg Settings.numElite same.settings
  trackBest same := congrArg Settings.trackBest same.settings
  bestScore same := same.bestScore
  withScores same low bound := ⟨same.params, same.settings, same.numIters, low, bound, same.bestScore⟩
  withBest same score := ⟨same.params, same.settings, same.numIters, same.minScore, same.eliteScore, score⟩
  adopting same :=
    ⟨rfl, same.settings, congrArg (· + 1) same.numIters, same.minScore, same.eliteScore, same.bestScore⟩

theorem inStep (keeps : KeepsRanks g) {strategies : Strategies P α Float G σ} (absent : strategies.stopRule = none)
    (sees : strategies.SeesOnly fun s => (s.params, s.settings, s.numIters)) :
    InStep strategies (strategies.rescored g) (Session.Like (State.SameRanks g)) Eq (Event.SameRanks g) where
  settled like := congrArg Settings.validate like.state.settings
  iterates _ like := by
    refine ((keeps.unaware sees).iterate_alike like).imp id ?_
    rintro _ _ ⟨u, v, elite, elite', like, elites, rfl, rfl⟩
    exact ⟨like.state.numIters, elites.minScore, elites.eliteScore, congrArg List.length elites.indices,
      like.state.bestScore, like.state.params⟩
  decides {s t} like := by
    have absent' : (strategies.rescored g).stopRule = none := absent
    simp only [finished, Stage.current_bind_apply, absent, absent', like.state.settings, like.state.numIters]
    cases s.state.settings.maxIters with
    | none => exact .error rfl like
    | some limit => exact .ok rfl like

end KeepsRanks

/-- A run whose scores are translated keeps up with the run itself, selects the same samples in each iteration,
and has the same parameters, count, random state and best-ever sample after it. -/
theorem ranks_decide (keeps : KeepsRanks g) {strategies : Strategies P α Float G σ}
    (sees : strategies.SeesOnly fun s => (s.params, s.settings, s.numIters)) (absent : strategies.stopRule = none)
    (params : P) (rng : G) (memory : σ) (settings : Settings → Settings) :
    let p := (Problem.new strategies params rng memory).withSettings settings
    let q := p.withStrategies (·.rescored g)
    (∀ n, p.Lockstep q .silent () (Session.Like (State.SameRanks g)) Eq (Event.SameRanks g) n) ∧
    (p.settings.validate = .ok () →
      ∀ {n s t watcher watcher' journal journal'}, Proceeds p.strategies .silent n p.fresh () s watcher journal →
      Proceeds q.strategies .silent n q.fresh () t watcher' journal' →
      ∀ {batch scores elite chosen u last}, Iteration.Selects p.strategies s batch scores elite chosen u last →
        ∃ elite' v last', Iteration.Selects q.strategies t batch (scores.map g) elite' chosen v last' ∧
          elite.Alike (Translated g) elite') := by
  intro p q
  have inStep := keeps.inStep absent sees
  have infinite : Translated g (1.0 / 0.0) (1.0 / 0.0) := by
    rw [Translated, keeps.infinity]
    exact (beq_iff_place isNaN_infinity isNaN_infinity).2 rfl
  have fresh : p.fresh.Like (State.SameRanks g) q.fresh :=
    ⟨⟨rfl, rfl, rfl, .none, .none, infinite⟩, rfl, rfl, rfl⟩
  refine ⟨inStep.lockstep (fun _ => rfl) (fun _ => rfl) fresh fresh (), fun valid => ?_⟩
  intro n s t watcher watcher' journal journal' proceeds proceeds' _ _ _ _ _ _ selects
  obtain ⟨_, _, same, like, -⟩ := inStep.proceeds_alike (s := p.fresh) (fun _ => rfl) valid fresh proceeds
  obtain ⟨rfl, -⟩ := proceeds'.unique same
  exact (keeps.unaware sees).selects like selects

def flipZeros (x : Float) : Float := if x == 0.0 then if x.toBits = 0 then -0.0 else 0.0 else x

theorem isNaN_flipZeros (x : Float) : (flipZeros x).isNaN = x.isNaN := by
  unfold flipZeros
  split
  · rename_i zero
    rw [(number_of_beq zero).1]
    split <;> decide +kernel
  · rfl

theorem floatPlace_flipZeros {x : Float} (number : x.isNaN = false) : floatPlace (flipZeros x) = floatPlace x := by
  unfold flipZeros
  split
  · rename_i zero
    rw [(beq_iff_place number (by decide +kernel)).1 zero]
    split <;> decide +kernel
  · rfl

theorem keepsRanks_flipZeros : KeepsRanks flipZeros where
  isNaN := isNaN_flipZeros
  le {x y} hx hy := by
    rw [le_iff_place hx hy, le_iff_place ((isNaN_flipZeros x).trans hx) ((isNaN_flipZeros y).trans hy),
      floatPlace_flipZeros hx, floatPlace_flipZeros hy]
  infinity := by decide +kernel

def scoresZerosInTurn : Strategies Nat Float Float Unit Nat where
  generator := some fun _ rng memory => (.ok (Tensor.vector [1.5, 2.5]), rng, memory)
  scorer := some fun _ calls => (.ok (if calls % 2 = 0 then 0.0 else -0.0), calls + 1)
  estimator := some Estimator.keep

theorem ranks_of_zeros :
    let settings : Settings := { numSamples := 2, numElite := 1, maxIters := some 1, trackBest := true }
    let p := (Problem.new scoresZerosInTurn 0 () 0).withSettings fun _ => settings
    let q := p.withStrategies (·.rescored flipZeros)
    (∃ out out', p.solve 1 = some out ∧ q.solve 1 = some out' ∧
      out.Alike (Session.Like (State.SameRanks flipZeros)) (ExceptRel Eq Eq) (Event.SameRanks flipZeros) out') ∧
    ∃ batch scores elite chosen u last elite' v last',
      Iteration.Selects p.strategies p.fresh batch scores elite chosen u last ∧
      Iteration.Selects q.strategies q.fresh batch (scores.map flipZeros) elite' chosen v last' ∧
      elite.Alike (Translated flipZeros) elite' := by
  intro settings p q
  have sees : scoresZerosInTurn.SeesOnly fun s => (s.params, s.settings, s.numIters) := by
    refine ⟨?_, ?_, fun none => by cases none⟩
    · rintro _ ⟨⟩ s t same
      rfl
    · rintro _ ⟨⟩ elite s t same
      have params : s.params = t.params := (Prod.mk.inj same).1
      funext memory
      simp only [Estimator.keep, params]
  obtain ⟨lockstep, selects⟩ := ranks_decide keepsRanks_flipZeros sees rfl 0 () 0 fun _ => settings
  constructor
  · cases lockstep 1 with
    | ended made made' alike => exact ⟨_, _, made, made', alike⟩
    | goesOn proceeds => exact absurd (Problem.proceeds_below (p := p) rfl rfl rfl proceeds) (by decide)
  · have drawn : Iteration.Draws p.strategies (p.fresh.withScores none none) (Tensor.vector [1.5, 2.5]) _ :=
      .intro rfl rfl rfl
    obtain ⟨elite, chosen, u, last, here⟩ := Iteration.exists_selects (s := p.fresh) rfl drawn rfl
      (.cons rfl (by decide +kernel) (.cons rfl (by decide +kernel) .nil))
    obtain ⟨elite', v, last', there, alike⟩ := selects rfl .refl .refl here
    exact ⟨_, _, elite, chosen, u, last, elite', v, last', here, there, alike⟩

end CrossEntropy
