import Mathlib
import CrossEntropy.Proofs.SpreadStops

/-!
Elites whose samples all score the same. Their spread is zero, which stops a run under any tolerance, unless they score
infinity: the difference of two infinities is not a number, and no tolerance admits it
(`collapsed_elite_stops_iff_finite`).
-/

namespace CrossEntropy
open Float.Model UnpackedFloat
variable {P α G σ : Type}

section Doubles
variable {x y t : Float}

theorem unpacked_sub_self (u : UnpackedFloat) :
    UnpackedFloat.sub Format.binary64 u u = if u.isFinite = true then .zero .positive else .notANumber := by
  cases u with
  | notANumber => rfl
  | infinity sign => cases sign <;> rfl
  | zero sign => cases sign <;> rfl
  | finite sign m e pos =>
      simp only [UnpackedFloat.sub, Int.sub_self]
      rfl

theorem sub_self_of_isFinite (finite : x.isFinite = true) : x - x = 0 := by
  have spread := (unpacked_sub_self x.toModel.unpack).trans (if_pos finite)
  exact congrArg (fun u => Float.ofModel (Float.Model.pack u)) spread

theorem isNaN_sub_self (infinite : ¬x.isFinite = true) : (x - x).isNaN = true := by
  have spread := (unpacked_sub_self x.toModel.unpack).trans (if_neg infinite)
  exact congrArg (fun u => (Float.ofModel (Float.Model.pack u)).isNaN) spread

theorem sub_le_iff_isFinite (tolerance : 0 ≤ t) (same : (x == y) = true) : x - y ≤ t ↔ y.isFinite = true := by
  -- Doubles that compare as equal are the same one or the two zeros.
  rcases Float.beq_iff_ne_nan_and_eq.1 same with ⟨-, -, rfl | ⟨rfl, rfl⟩ | ⟨rfl, rfl⟩⟩
  · constructor
    · intro le
      by_contra infinite
      exact Bool.noConfusion ((isNaN_sub_self infinite).symm.trans (number_of_le le).1)
    · intro finite
      rwa [sub_self_of_isFinite finite]
  · have spread : (0 : Float) - -0 = 0 := by decide +kernel
    rw [spread]
    exact iff_of_true tolerance (by decide +kernel)
  · have below : (-0 : Float) - 0 ≤ 0 := by decide +kernel
    exact iff_of_true (float_le_trans below tolerance) (by decide +kernel)

end Doubles

namespace Elite
variable {scores : List Float} {numElite : Nat} {elite : Elite Float}

theorem beq_minScore_iff (number : ∀ score ∈ scores, score.isNaN = false)
    (selected : select? scores numElite = some elite) :
    (elite.eliteScore == elite.minScore) = true ↔
      ∀ j ∈ elite.indices, ∀ score, scores[j]? = some score → (score == elite.minScore) = true := by
  have least := minScore_le_of_select? (agree_of_numbers number) selected
  have low := number _ (mem_of_ofRank? (ranks_of_select? selected).1)
  have bound := eliteScore_mem_of_select? selected
  rw [indices_of_select? selected]
  constructor
  · intro same j admitted score entry
    obtain ⟨score', entry', le⟩ := mem_admitted_iff.1 admitted
    obtain rfl : score = score' := Option.some.inj (entry.symm.trans entry')
    have member := List.mem_of_getElem? entry
    have above := least score member
    rw [beq_iff_place (number _ bound) low] at same
    rw [le_iff_place (number _ member) (number _ bound)] at le
    rw [le_iff_place low (number _ member)] at above
    exact (beq_iff_place (number _ member) low).2 (by omega)
  · intro all
    obtain ⟨j, entry⟩ := List.mem_iff_getElem?.1 bound
    exact all j (mem_admitted_iff.2 ⟨_, entry, float_le_refl (number _ bound)⟩) _ entry

end Elite

variable {p : Problem P α Float G σ} {e : EliteSpread Float} {nobody : Unit} {k : Nat}
  {before calls : Journal P α Float} {event : Event P Float} {u : Session P α Float G σ}

def Journal.Collapses (calls : Journal P α Float) (numElite : Nat) : Prop :=
  ∃ elite, calls.Picks numElite elite ∧ ∀ j ∈ elite.indices, ∀ score, (calls.scored.map Prod.snd)[j]? = some score →
    (score == elite.minScore) = true

theorem Problem.Completes.collapses_iff (h : p.Completes e.toObserver () k before nobody calls event u) :
    calls.Collapses p.settings.numElite ↔ (event.eliteScore == event.minScore) = true := by
  obtain ⟨elite, picks, low, bound⟩ := h.picks
  have number : ∀ score ∈ calls.scored.map Prod.snd, score.isNaN = false := by
    obtain ⟨_, _, _, _, _, _, course, rfl⟩ := h.course
    obtain ⟨_, _, _, -, all⟩ := course.answers
    exact all.number
  rw [low, bound, Elite.beq_minScore_iff number picks.selected]
  constructor
  · rintro ⟨elite', picks', all⟩
    obtain rfl : elite' = elite := Option.some.inj (picks'.selected.symm.trans picks.selected)
    exact all
  · exact fun all => ⟨elite, picks, all⟩

theorem EliteSpread.stops_iff_isFinite (tolerance : 0 ≤ e.tolerance)
    (collapsed : (event.eliteScore == event.minScore) = true) :
    (e.observe event).1 = .stop ↔ e.minIters ≤ event.iter ∧ event.minScore.isFinite = true := by
  have stops : (e.toObserver event ()).1 = .stop ↔ _ := EliteSpread.stops_iff
  exact stops.trans (and_congr_right fun _ => sub_le_iff_isFinite tolerance collapsed)

theorem Problem.Completes.stoppedAfter_iff (h : p.Completes e.toObserver () k before nobody calls event u) :
    p.StoppedAfter e.toObserver () (k + 1) ↔ (e.observe event).1 = .stop := by
  rw [Problem.stoppedAfter_iff]
  constructor
  · rintro ⟨j, _, _, _, event', _, same, completes, stops⟩
    obtain rfl : j = k := Nat.succ.inj same
    obtain rfl := completes.event_unique h
    exact stops
  · exact fun stops => ⟨k, before, nobody, calls, event, u, rfl, h, stops⟩

theorem collapsed_elite_stops_iff_finite {e : EliteSpread Float} (tolerance : 0 ≤ e.tolerance) :
    (∀ {P : Type} {event : Event P Float}, (event.eliteScore == event.minScore) = true →
      ((e.observe event).1 = .stop ↔ e.minIters ≤ event.iter ∧ event.minScore.isFinite = true)) ∧
    ∀ {P α G σ : Type} {p : Problem P α Float G σ} {k : Nat} {before calls : Journal P α Float} {event : Event P Float}
      {u : Session P α Float G σ}, p.Completes e.toObserver () k before () calls event u →
      (calls.Collapses p.settings.numElite ↔ (event.eliteScore == event.minScore) = true) ∧
        (calls.Collapses p.settings.numElite →
          (p.StoppedAfter e.toObserver () (k + 1) ↔ e.minIters ≤ k + 1 ∧ event.minScore.isFinite = true)) := by
  refine ⟨EliteSpread.stops_iff_isFinite tolerance, fun completes => ⟨completes.collapses_iff, fun collapsed => ?_⟩⟩
  obtain ⟨counted, described⟩ := completes.describes
  rw [completes.stoppedAfter_iff, EliteSpread.stops_iff_isFinite tolerance (completes.collapses_iff.1 collapsed),
    described.iter, counted]

section Leveled
variable {score : Float}

theorem settles_half (number : score.isNaN = false) (above : Score.sortLe 0.5 score = true) : Settles 0.5 score where
  number := ⟨by decide +kernel, number⟩
  above := above
  level := by simp [Score.sortLe]

theorem settling_completes (settles : Settles 0.5 score) (e : EliteSpread Float) (apart : ¬score - 0.5 ≤ e.tolerance) :
    ∃ before calls event u, (settling 0.5 score).Completes e.toObserver () 1 before () calls event u ∧
      event.eliteScore = score ∧ event.minScore = score := by
  obtain ⟨before, calls, event, u, completes, least, elite⟩ := settles.completes (k := 1) (by decide)
  refine ⟨before, calls, event, u, Problem.completes_iff.2 ⟨completes, fun j first converges => ?_⟩, elite, least⟩
  obtain rfl : j = 0 := Nat.lt_one_iff.1 first
  exact apart ((settles.convergesAt_iff (by decide)).1 converges).2

theorem settling_stops_iff_finite :
    let e : EliteSpread Float := { tolerance := 0 }
    let event : Event Nat Float :=
      { iter := 1, minScore := -0, eliteScore := 0, eliteCount := 2, bestScore := -0, params := 0 }
    0 ≤ e.tolerance ∧ (e.observe event).1 = .stop ∧ (settling 0.5 1.5).StoppedAfter e.toObserver () 2 ∧
      ¬(settling 0.5 (1 / 0)).StoppedAfter e.toObserver () 2 := by
  intro e event
  have tolerance : 0 ≤ e.tolerance := by decide +kernel
  obtain ⟨events, runs⟩ := collapsed_elite_stops_iff_finite tolerance
  have zeros : (event.eliteScore == event.minScore) = true := by decide +kernel
  have law {score : Float} (settles : Settles 0.5 score) (apart : ¬score - 0.5 ≤ e.tolerance) :
      (settling 0.5 score).StoppedAfter e.toObserver () 2 ↔ score.isFinite = true := by
    obtain ⟨before, calls, event, u, completes, bound, low⟩ := settling_completes settles e apart
    have same : (event.eliteScore == event.minScore) = true := by
      rw [bound, low]
      exact (beq_iff_place settles.number.2 settles.number.2).2 rfl
    obtain ⟨collapses, stops⟩ := runs completes
    rw [stops (collapses.2 same), low]
    exact and_iff_right (by decide)
  have early : Settles 0.5 (1.5 : Float) := settles_half (by decide +kernel) (by decide +kernel)
  have finite := law early (by decide +kernel)
  have infinite := law (settles_half isNaN_infinity (by decide +kernel)) (by decide +kernel)
  refine ⟨tolerance, (events zeros).2 ⟨by decide, by decide +kernel⟩, finite.2 (by decide +kernel), fun stopped => ?_⟩
  exact absurd (infinite.1 stopped) (by decide +kernel)

/-- A run that gets to samples that all score infinity: its elite has collapsed, and the observer lets it go on. -/
theorem infinite_elite_proceeds :
    let e : EliteSpread Float := { tolerance := 0 }
    ∃ before calls event u, (settling 0.5 (1 / 0)).Completes e.toObserver () 1 before () calls event u ∧
      0 ≤ e.tolerance ∧ e.minIters ≤ event.iter ∧ event.minScore.isNaN = false ∧
      (event.eliteScore == event.minScore) = true ∧ (e.observe event).1 ≠ .stop := by
  intro e
  have settles := settles_half isNaN_infinity (by decide +kernel)
  obtain ⟨before, calls, event, u, completes, bound, low⟩ := settling_completes settles e (by decide +kernel)
  obtain ⟨counted, described⟩ := completes.describes
  refine ⟨before, calls, event, u, completes, by decide +kernel, ?_, ?_, ?_, fun stops => ?_⟩
  · rw [described.iter, counted]
    decide
  · rw [low]
    decide +kernel
  · rw [bound, low]
    decide +kernel
  · have stopped : (e.toObserver event ()).1 = .stop := stops
    obtain ⟨-, close⟩ := EliteSpread.stops_iff.1 stopped
    rw [bound, low] at close
    exact absurd close (by decide +kernel)

end Leveled
end CrossEntropy
