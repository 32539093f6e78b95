import Mathlib.Algebra.BigOperators.Fin
import CrossEntropy.Proofs.Stochastic
import CrossEntropy.Proofs.IterationLimit

namespace CrossEntropy
variable {P α S G σ ω : Type}

/-- Parameters put together from arrays of numbers that are mixed one by one. -/
class Componentwise (P : Type) [Mix ℝ P] where
  parts : List (P → Tensor ℝ)
  ext : ∀ {p q : P}, (∀ part ∈ parts, part p = part q) → p = q
  mixes : ∀ {w : ℝ} {estimated current params : P}, mix? w estimated current = some params →
    ∀ part ∈ parts, mix? w (part estimated) (part current) = some (part params)

export Componentwise (parts)

noncomputable instance : Componentwise (Gaussian ℝ) where
  parts := [Gaussian.mean, Gaussian.stddev]
  ext {p q} same := by
    rcases p with ⟨mean, stddev⟩
    obtain rfl : mean = q.mean := same _ (.head _)
    obtain rfl : stddev = q.stddev := same _ (.tail _ (.head _))
    rfl
  mixes mixed := by
    obtain ⟨mean, stddev⟩ := Gaussian.parts_of_mix? mixed
    simp [mean, stddev]

noncomputable instance : Componentwise (Beta ℝ) where
  parts := [Beta.alpha, Beta.beta]
  ext {p q} same := by
    rcases p with ⟨alpha, beta⟩
    obtain rfl : alpha = q.alpha := same _ (.head _)
    obtain rfl : beta = q.beta := same _ (.tail _ (.head _))
    rfl
  mixes mixed := by
    obtain ⟨alpha, beta⟩ := Beta.parts_of_mix? mixed
    simp [alpha, beta]

noncomputable instance : Componentwise (Tensor ℝ) where
  parts := [id]
  ext same := same _ (.head _)
  mixes mixed := by simp [mixed]

/-- An entry of an array, zero beyond its bounds. -/
noncomputable def Tensor.entry (a : Tensor ℝ) (i : List Nat) : ℝ := a[i]?.getD 0

def Journal.refits (journal : Journal P α S) : Journal P α S :=
  journal.filterMap fun
    | .estimate elite shown => some (.estimate elite shown)
    | .update estimated shown => some (.update estimated shown)
    | _ => none

/-- Estimates made one after another, each of which is mixed with the parameters that the calls of the estimator and
of the updater are shown and that the estimate before has led to. The journal has these calls. -/
inductive Smooths [Mix ℝ P] (strategies : Strategies P α S G σ) (w : ℝ) : P → Journal P α S → List P → P → Prop
  | refl {params : P} : Smooths strategies w params [] [] params
  | next {estimator chosen shown memory memory' estimated params later estimates last}
      (installed : strategies.estimator = some estimator)
      (returned : estimator chosen shown memory = (.ok estimated, memory'))
      (mixed : mix? w estimated shown.params = some params)
      (rest : Smooths strategies w params later estimates last) :
      Smooths strategies w shown.params (.estimate chosen shown :: .update estimated shown :: later)
        (estimated :: estimates) last

section Average
variable [Mix ℝ P] [Componentwise P]

def SameShapes (p q : P) : Prop := ∀ part ∈ parts, (part p : Tensor ℝ).shape = (part q).shape

/-- In each entry the last of some parameters is the initial one and the estimates, weighted by how many estimates
have come after them. -/
def IsMovingAverage (w : ℝ) (initial : P) (estimates : List P) (last : P) : Prop :=
  ∀ part ∈ parts, (part last : Tensor ℝ).shape = (part initial).shape ∧
    ∀ {i : List Nat}, (part initial).shape.InBounds i →
      (part last)[i]? = some ((1 - w) ^ estimates.length * (part initial).entry i +
        ∑ k : Fin estimates.length, w * (1 - w) ^ (estimates.length - (k + 1)) * (part estimates[k]).entry i)

variable {strategies : Strategies P α S G σ} {w : ℝ} {initial last : P} {refits : Journal P α S} {estimates : List P}

omit [Mix ℝ P] [Componentwise P] in
theorem Tensor.getElem?_eq_entry {a : Tensor ℝ} {i : List Nat} (inside : a.shape.InBounds i) :
    a[i]? = some (a.entry i) := by
  rw [entry, getElem?_eq, dif_pos inside, Option.getD_some]

theorem mix_entry {estimated current params : P} (mixed : mix? w estimated current = some params)
    (same : SameShapes estimated current) {part : P → Tensor ℝ} (member : part ∈ parts) :
    (part params).shape = (part current).shape ∧ ∀ {i : List Nat}, (part current).shape.InBounds i →
      (part params).entry i = w * (part estimated).entry i + (1 - w) * (part current).entry i := by
  obtain ⟨shape, entries⟩ := Tensor.entries_of_mix? (Componentwise.mixes mixed part member) (same part member)
  refine ⟨shape, fun {i} inside => ?_⟩
  have inside' : (part estimated).shape.InBounds i := (same part member).symm ▸ inside
  rw [Tensor.entry, entries (Tensor.getElem?_eq_entry inside') (Tensor.getElem?_eq_entry inside), Option.getD_some]

omit [Mix ℝ P] [Componentwise P] in
theorem sum_cons (f : Nat → P → ℝ) (e : P) (estimates : List P) :
    ∑ k : Fin (e :: estimates).length, f ((e :: estimates).length - (k + 1)) (e :: estimates)[k] =
      f estimates.length e + ∑ k : Fin estimates.length, f (estimates.length - (k + 1)) estimates[k] := by
  refine (Fin.sum_univ_succ (n := estimates.length) _).trans ?_
  simp

theorem Smooths.isMovingAverage (h : Smooths strategies w initial refits estimates last)
    (shapes : ∀ e ∈ estimates, SameShapes e initial) : IsMovingAverage w initial estimates last := by
  induction h with
  | refl =>
      intro part member
      refine ⟨rfl, fun {i} inside => ?_⟩
      rw [Tensor.getElem?_eq_entry inside]
      simp
  | @next _ _ shown _ _ estimated params _ estimates last _ _ mixed _ ih =>
      have first : SameShapes estimated shown.params := shapes _ (.head _)
      have kept {part : P → Tensor ℝ} (member : part ∈ parts) : (part params).shape = (part shown.params).shape :=
        (mix_entry mixed first member).1
      have average := ih fun e later part member => (shapes e (.tail _ later) part member).trans (kept member).symm
      intro part member
      obtain ⟨shape, entries⟩ := average part member
      refine ⟨shape.trans (kept member), fun {i} inside => ?_⟩
      have entry := entries ((kept member).symm ▸ inside)
      -- the parameters after the first estimate are initial for the others, which count one less from the end
      have sums := sum_cons (fun k e => w * (1 - w) ^ k * (part e).entry i) estimated estimates
      rw [entry, (mix_entry mixed first member).2 inside, sums, List.length_cons, pow_succ]
      refine congrArg some ?_
      ring

end Average

namespace Journal

@[simp] theorem refits_append (first rest : Journal P α S) : refits (first ++ rest) = refits first ++ refits rest :=
  List.filterMap_append ..

@[simp] theorem refits_map_log (notes : List (LogRecord S)) : refits (notes.map .log : Journal P α S) = [] :=
  filterMap_map_log (fun _ => rfl) notes

@[simp] theorem refits_scoring [Score S] (track : Bool) (best : Best α S) (index : Nat) (scored : List (Tensor α × S)) :
    refits (scoring (P := P) track best index scored) = [] := by
  rw [refits, filterMap_scoring fun _ => rfl]
  simp [scoreCalls]

@[simp] theorem refits_reported (journal : Journal P α S) (event : Event P S) (verdict : Verdict)
    (notes : List (LogRecord S)) : (reported journal event verdict notes).refits = journal.refits := by
  have rest : refits (.observe event verdict :: notes.map .log : Journal P α S) = [] := refits_map_log notes
  rw [reported, refits_append, rest, List.append_nil]

end Journal

section Runs
variable [Mix ℝ P] [Score S] {strategies : Strategies P α S G σ} {observer : Observer P S ω}
  {s t : Session P α S G σ} {watcher watcher' : ω} {smoothing : Smoothing ℝ} {w : ℝ} {n : Nat}
  {journal : Journal P α S}

omit [Score S] in
theorem Smooths.append {a b c : P} {first rest : Journal P α S} {estimates later : List P}
    (h : Smooths strategies w a first estimates b) (h' : Smooths strategies w b rest later c) :
    Smooths strategies w a (first ++ rest) (estimates ++ later) c := by
  induction h with
  | refl => exact h'
  | next installed returned mixed _ ih => exact .next installed returned mixed (ih h')

omit [Mix ℝ P] [Score S] in
theorem Decides.refits {stop : Bool} (h : Decides strategies s stop t journal) : journal.refits = [] := by
  cases h <;> rfl

omit [Mix ℝ P] in
theorem Iteration.Selects.refits {batch chosen : Tensor α} {scores : List S} {elite : Elite S}
    (h : Selects strategies s batch scores elite chosen t journal) : journal.refits = [] := by
  cases h
  exact Journal.refits_scoring ..

theorem Iteration.Course.smooths {event : Event P S} (course : Course strategies s (.ok event) t journal)
    (smooths : strategies.updater = some smoothing.updater) :
    ∃ estimated, Smooths strategies smoothing.weight s.state.params journal.refits [estimated] t.state.params := by
  cases course with
  | @completed _ _ _ chosen drew before estimated _ params _ _ selects estimates updates =>
      have shown : drew.state.params = s.state.params := by rw [selects.state]
      refine ⟨estimated, ?_⟩
      cases estimates with
      | intro installed returned =>
          cases updates with
          | keep absent => rw [absent] at smooths; cases smooths
          | apply installed' returned' =>
              obtain rfl := Option.some.inj (smooths.symm.trans installed')
              have mixed := smoothing.mix_of_updater returned'
              rw [Journal.refits_append, selects.refits, ← shown]
              exact .next installed returned mixed .refl

/-- What iterations make of parameters that they smooth. The calls in the journal are those that the completed ones
have made, unless the last one has failed, which may have made some more. -/
def Refitted (strategies : Strategies P α S G σ) (w : ℝ) (initial : P) (journal : Journal P α S) (failed : Prop)
    (last : P) : Prop :=
  ∃ refits estimates, refits <+: journal.refits ∧ (¬failed → refits = journal.refits) ∧
    estimates.length = journal.events.length ∧ Smooths strategies w initial refits estimates last

theorem Iteration.Course.refitted {event : Event P S} {failed : Prop}
    (course : Course strategies s (.ok event) t journal) (smooths : strategies.updater = some smoothing.updater)
    (verdict : Verdict) (notes : List (LogRecord S)) {rest : Journal P α S} (quiet : rest.refits = [])
    (silent : rest.events = []) :
    Refitted strategies smoothing.weight s.state.params (reported journal event verdict notes ++ rest) failed
      t.state.params := by
  obtain ⟨estimated, smooths⟩ := course.smooths smooths
  have refits : (reported journal event verdict notes ++ rest).refits = journal.refits := by
    rw [Journal.refits_append, Journal.refits_reported, quiet, List.append_nil]
  have events : (reported journal event verdict notes ++ rest).events = [(event, verdict)] := by
    rw [Journal.events_append, reported_events course.events, silent, List.append_nil]
  exact ⟨_, [estimated], refits ▸ List.prefix_rfl, fun _ => refits.symm, events ▸ rfl, smooths⟩

theorem Step.refitted {made : Outcome P α S G σ ω (Option (Except SolveError Ending))}
    (h : Step strategies observer s watcher made) (smooths : strategies.updater = some smoothing.updater) :
    Refitted strategies smoothing.weight s.state.params made.journal (∃ e, made.ending = some (.error e))
      made.session.state.params := by
  cases h with
  | fails course =>
      refine ⟨[], [], List.nil_prefix, fun goes => absurd ⟨_, rfl⟩ goes, course.events ▸ rfl, ?_⟩
      rw [course.params_of_error]
      exact .refl
  | stopped course => exact course.refitted smooths .stop _ rfl rfl
  | @undecided event _ journal notes _ course =>
      rw [← List.append_nil (reported journal event .proceed notes)]
      exact course.refitted smooths .proceed _ rfl rfl
  | ends course answer decides =>
      rw [List.append_assoc, decides.state]
      refine course.refitted smooths .proceed _ ?_ ?_
      · rw [Journal.refits_append, decides.refits]
        rfl
      · rw [Journal.events_append, decides.events]
        rfl
  | goesOn course answer decides =>
      rw [decides.state]
      exact course.refitted smooths .proceed _ decides.refits decides.events

omit [Score S] in
theorem Refitted.append {a b c : P} {first rest : Journal P α S} {failed : Prop}
    (h : Refitted strategies w a first False b) (later : Refitted strategies w b rest failed c) :
    Refitted strategies w a (first ++ rest) failed c := by
  obtain ⟨refits, estimates, -, all, count, smooths⟩ := h
  obtain ⟨refits', estimates', inside, all', count', smooths'⟩ := later
  obtain rfl := all id
  refine ⟨_, _, ?_, fun goes => ?_, ?_, smooths.append smooths'⟩
  · rw [Journal.refits_append]
    exact (List.prefix_append_right_inj _).2 inside
  · rw [Journal.refits_append, all' goes]
  · rw [Journal.events_append, List.length_append, List.length_append, count, count']

theorem Proceeds.refitted (h : Proceeds strategies observer n s watcher t watcher' journal)
    (valid : s.state.settings.validate = .ok ()) (smooths : strategies.updater = some smoothing.updater) :
    Refitted strategies smoothing.weight s.state.params journal False t.state.params := by
  induction h with
  | refl => exact ⟨[], [], List.nil_prefix, fun _ => rfl, rfl, .refl⟩
  | next first _ ih =>
      have made := (step_eq_iff valid).1 first
      have settled := (congrArg Settings.validate made.settings).trans valid
      obtain ⟨refits, estimates, inside, all, count, here⟩ := made.refitted smooths
      have goes : ¬∃ e, (none : Option (Except SolveError Ending)) = some (.error e) := by simp
      exact Refitted.append ⟨refits, estimates, inside, fun _ => all goes, count, here⟩ (ih settled)

theorem Problem.refitted {p : Problem P α S G σ} {limit : Nat}
    {out : Outcome P α S G σ ω (Except SolveError Ending)} (made : p.solveUnder observer watcher limit = some out)
    (smooths : p.strategies.updater = some smoothing.updater) :
    Refitted p.strategies smoothing.weight p.params out.journal (∃ e, out.ending = .error e)
      out.session.state.params := by
  cases valid : p.settings.validate with
  | error invalid =>
      rw [solveUnder_of_invalid valid] at made
      obtain rfl := Option.some.inj made
      exact ⟨[], [], List.nil_prefix, fun _ => rfl, rfl, .refl⟩
  | ok =>
      obtain ⟨n, before, watcher', earlier, last, proceeds, -, final, journal⟩ := p.last_step valid made
      have earlier := proceeds.refitted valid smooths
      have last := final.refitted smooths
      rw [journal]
      refine earlier.append ?_
      simpa only [Option.some.injEq] using last

end Runs

theorem Smoothing.weight_of_ofWeight {w : ℝ} {smoothing : Smoothing ℝ} (accepted : ofWeight w = .ok smoothing) :
    smoothing.weight = w := by
  rw [ofWeight] at accepted
  split at accepted
  · obtain rfl := Except.ok.inj accepted
    rfl
  · cases accepted

theorem params_of_smoothed_run [Mix ℝ P] [Componentwise P] [Score S] {p : Problem P α S G σ} {w : ℝ}
    {smoothing : Smoothing ℝ} (accepted : Smoothing.ofWeight w = .ok smoothing)
    (installed : p.strategies.updater = some smoothing.updater) :
    (∀ {ω : Type} {observer : Observer P S ω} {watcher watcher' : ω} {n : Nat} {t : Session P α S G σ}
      {journal : Journal P α S}, p.settings.validate = .ok () →
      Proceeds p.strategies observer n p.fresh watcher t watcher' journal →
      ∃ estimates, estimates.length = n ∧
        Smooths p.strategies w p.params journal.refits estimates t.state.params ∧
        ((∀ e ∈ estimates, SameShapes e p.params) → IsMovingAverage w p.params estimates t.state.params)) ∧
    ∀ {ω : Type} {observer : Observer P S ω} {watcher : ω} {limit : Nat}
      {out : Outcome P α S G σ ω (Except SolveError Ending)}, p.solveUnder observer watcher limit = some out →
      ∃ refits estimates, refits <+: out.journal.refits ∧
        ((¬∃ e, out.ending = .error e) → refits = out.journal.refits) ∧
        estimates.length = out.journal.events.length ∧
        Smooths p.strategies w p.params refits estimates out.session.state.params ∧
        ((∀ e ∈ estimates, SameShapes e p.params) → IsMovingAverage w p.params estimates out.session.state.params) := by
  obtain rfl := smoothing.weight_of_ofWeight accepted
  constructor
  · intro ω observer watcher watcher' n t journal valid proceeds
    obtain ⟨refits, estimates, -, all, count, smooths⟩ := proceeds.refitted valid installed
    obtain rfl := all id
    exact ⟨estimates, count.trans (proceeds.counted valid).2, smooths, smooths.isMovingAverage⟩
  · intro ω observer watcher limit out made
    obtain ⟨refits, estimates, inside, all, count, smooths⟩ := Problem.refitted made installed
    exact ⟨refits, estimates, inside, all, count, smooths, smooths.isMovingAverage⟩

noncomputable def steady : Problem (Gaussian ℝ) Float Float Unit Unit where
  strategies :=
    { generator := some fun _ rng memory => (.ok (Tensor.vector [1.5]), rng, memory)
      scorer := some fun _ memory => (.ok 1.5, memory)
      estimator := some fun _ _ memory => (.ok ⟨.scalar 1, .scalar 0⟩, memory)
      updater := some Categorical.half.updater }
  session :=
    { state :=
        { State.initial ⟨.scalar 0, .scalar 1⟩ with settings := { numSamples := 1, numElite := 1, maxIters := some 3 } }
      rng := ()
      memory := ()
      bestSample := none }

theorem steady_estimates {w : ℝ} {initial last : Gaussian ℝ} {refits : Journal (Gaussian ℝ) Float Float}
    {estimates : List (Gaussian ℝ)} (h : Smooths steady.strategies w initial refits estimates last) :
    ∀ e ∈ estimates, e = ⟨.scalar 1, .scalar 0⟩ := by
  induction h with
  | refl => simp
  | next installed returned _ _ ih =>
      obtain rfl := Option.some.inj installed
      obtain ⟨same, -⟩ := Prod.mk.inj returned
      exact List.forall_mem_cons.2 ⟨(Except.ok.inj same).symm, ih⟩

theorem params_of_steady :
    Smoothing.ofWeight (1 / 2 : ℝ) = .ok Categorical.half ∧ steady.strategies.updater = some Categorical.half.updater ∧
      ∃ out, steady.solve 3 = some out ∧ out.session.state.params.mean[([] : List Nat)]? = some (7 / 8) := by
  have accepted : Smoothing.ofWeight (1 / 2 : ℝ) = .ok Categorical.half :=
    dif_pos ⟨Categorical.half.nonneg, Categorical.half.le_one⟩
  have installed : steady.strategies.updater = some Categorical.half.updater := rfl
  have ending : (steady.solve 3).map (·.ending.toOption) = some (some .stopRule) := by decide +kernel
  obtain ⟨out, made⟩ := Problem.exists_outcome (p := steady) (m := 3) rfl rfl .silent ()
  have made : steady.solveUnder .silent () 3 = some out := made 3 (by decide)
  have solved : steady.solve 3 = some out := made
  rw [solved, Option.map_some, Option.some.injEq] at ending
  have ended : out.ending = .ok .stopRule := by
    cases result : out.ending with
    | error => rw [result] at ending; cases ending
    | ok => rw [result] at ending; exact congrArg Except.ok (Option.some.inj ending)
  have reached := (Problem.reached_of_run (p := steady) rfl rfl made ended).2
  obtain ⟨refits, estimates, -, -, count, smooths, average⟩ := (params_of_smoothed_run accepted installed).2 made
  have same : estimates = List.replicate 3 ⟨.scalar 1, .scalar 0⟩ :=
    List.eq_replicate_iff.2 ⟨count.trans reached, steady_estimates smooths⟩
  subst same
  have shapes : ∀ e ∈ List.replicate 3 (⟨.scalar 1, .scalar 0⟩ : Gaussian ℝ), SameShapes e steady.params := by
    intro e member
    obtain rfl := List.eq_of_mem_replicate member
    simp [SameShapes, parts, steady, State.initial, Tensor.scalar]
  have entry := (average shapes Gaussian.mean (.head _)).2 (i := []) trivial
  have initial : steady.params.mean.entry [] = 0 := rfl
  have each : (Tensor.scalar (1 : ℝ)).entry [] = 1 := rfl
  refine ⟨accepted, installed, out, solved, entry.trans (congrArg some ?_)⟩
  simp only [List.length_replicate, Fin.getElem_fin, List.getElem_replicate, initial, each]
  refine (congrArg (_ + ·) (Fin.sum_univ_three _)).trans ?_
  norm_num

end CrossEntropy
