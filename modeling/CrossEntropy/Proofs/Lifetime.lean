import Mathlib.Logic.Relation
import CrossEntropy.Proofs.Run

/-!
The life of a problem as a transition system. Between runs the settings, the strategies, the random
generator and the memory may be changed; a run starts the count again and makes steps until one of them ends
it. A run that is over leads from its beginning to its end (`leads_of_solveUnder`), and what an iteration
keeps of the parameters is kept for life (`Sound.leads`).
-/

namespace CrossEntropy
variable {P α S G σ ω : Type}

inductive Phase (P S : Type) : Type 1
  | idle
  | running {ω : Type} (observer : Observer P S ω) (watcher : ω)

structure Moment (P α S G σ : Type) : Type 1 where
  problem : Problem P α S G σ
  phase : Phase P S

section Iterations
variable [Score S] {strategies : Strategies P α S G σ} {observer : Observer P S ω} {s t : Session P α S G σ}
  {watcher : ω}

theorem Step.course {made : Outcome P α S G σ ω (Option (Except SolveError Ending))}
    (h : Step strategies observer s watcher made) :
    ∃ result t journal, Iteration.Course strategies s result t journal ∧ made.session.state = t.state ∧
      made.session.rng = t.rng := by
  cases h with
  | fails course | stopped course | undecided course => exact ⟨_, _, _, course, rfl, rfl⟩
  | ends course _ decides | goesOn course _ decides => exact ⟨_, _, _, course, decides.state, decides.rng⟩

end Iterations

namespace Moment
variable [Score S]

/-- What can happen next as long as nobody replaces the parameters and all strategies are allowed ones. -/
inductive Next (allowed : Strategies P α S G σ → Prop) : Moment P α S G σ → Moment P α S G σ → Prop
  | settings {p : Problem P α S G σ} (f : Settings → Settings) : Next allowed ⟨p, .idle⟩ ⟨p.withSettings f, .idle⟩
  | strategies {p : Problem P α S G σ} {f : Strategies P α S G σ → Strategies P α S G σ}
      (kept : allowed (f p.strategies)) : Next allowed ⟨p, .idle⟩ ⟨p.withStrategies f, .idle⟩
  | rng {p : Problem P α S G σ} (rng : G) : Next allowed ⟨p, .idle⟩ ⟨p.withRng rng, .idle⟩
  | memory {p : Problem P α S G σ} (memory : σ) : Next allowed ⟨p, .idle⟩ ⟨p.withMemory memory, .idle⟩
  | starts {p : Problem P α S G σ} {ω : Type} {observer : Observer P S ω} {watcher : ω}
      (valid : p.settings.validate = .ok ()) :
      Next allowed ⟨p, .idle⟩ ⟨{ p with session := p.fresh }, .running observer watcher⟩
  | goesOn {p : Problem P α S G σ} {ω : Type} {observer : Observer P S ω} {watcher watcher' : ω}
      {t : Session P α S G σ} {journal : Journal P α S}
      (made : step p.strategies observer p.session watcher = ⟨none, t, watcher', journal⟩) :
      Next allowed ⟨p, .running observer watcher⟩ ⟨{ p with session := t }, .running observer watcher'⟩
  | ends {p : Problem P α S G σ} {ω : Type} {observer : Observer P S ω} {watcher watcher' : ω}
      {t : Session P α S G σ} {journal : Journal P α S} {ending : Except SolveError Ending}
      (made : step p.strategies observer p.session watcher = ⟨some ending, t, watcher', journal⟩) :
      Next allowed ⟨p, .running observer watcher⟩ ⟨{ p with session := t }, .idle⟩

/-- The second moment comes later in the life of the first, or is the same. -/
abbrev Leads (allowed : Strategies P α S G σ → Prop) : Moment P α S G σ → Moment P α S G σ → Prop :=
  Relation.ReflTransGen (Next allowed)

variable {allowed : Strategies P α S G σ → Prop} {p : Problem P α S G σ}

theorem leads_of_proceeds {observer : Observer P S ω} {n : Nat} {s t : Session P α S G σ} {watcher watcher' : ω}
    {journal : Journal P α S} (h : Proceeds p.strategies observer n s watcher t watcher' journal) :
    Leads allowed ⟨{ p with session := s }, .running observer watcher⟩
      ⟨{ p with session := t }, .running observer watcher'⟩ := by
  induction h with
  | refl => exact .refl
  | next first _ ih => exact .head (.goesOn (p := { p with session := _ }) first) ih

theorem leads_of_solveUnder {observer : Observer P S ω} {watcher : ω} {limit : Nat}
    {out : Outcome P α S G σ ω (Except SolveError Ending)}
    (made : p.solveUnder observer watcher limit = some out) :
    Leads allowed ⟨p, .idle⟩ ⟨{ p with session := out.session }, .idle⟩ := by
  cases valid : p.settings.validate with
  | error invalid =>
      rw [Problem.solveUnder_of_invalid valid] at made
      obtain rfl := Option.some.inj made
      exact .refl
  | ok =>
      rw [Problem.solveUnder_of_valid valid] at made
      obtain ⟨n, t, watcher', journal, last, -, proceeds, ended, -⟩ := runWithin_eq_some_iff.1 made
      have going : Leads allowed ⟨p, .idle⟩ ⟨{ p with session := t }, .running observer watcher'⟩ :=
        .head (.starts valid) (leads_of_proceeds proceeds)
      exact going.tail (.ends (p := { p with session := t }) ended)

structure Sound (allowed : Strategies P α S G σ → Prop) (kind : P → Prop) (m : Moment P α S G σ) : Prop where
  strategies : allowed m.problem.strategies
  valid : m.phase ≠ .idle → m.problem.settings.validate = .ok ()
  params : kind m.problem.params

/-- Iterations of allowed strategies keep parameters of the kind, whether they are completed or fail. -/
def Keeps (allowed : Strategies P α S G σ → Prop) (kind : P → Prop) : Prop :=
  ∀ {strategies s result t journal}, allowed strategies → kind s.state.params →
    Iteration.Course strategies s result t journal → kind t.state.params

variable {kind : P → Prop} {m later : Moment P α S G σ}

theorem Keeps.step {strategies : Strategies P α S G σ} {observer : Observer P S ω} {s t : Session P α S G σ}
    {watcher watcher' : ω} {ending : Option (Except SolveError Ending)} {journal : Journal P α S}
    (keeps : Keeps allowed kind) (allows : allowed strategies) (good : kind s.state.params)
    (h : Step strategies observer s watcher ⟨ending, t, watcher', journal⟩) : kind t.state.params := by
  obtain ⟨_, u, _, course, state, -⟩ := h.course
  have state : t.state = u.state := state
  exact state ▸ keeps allows good course

theorem Next.course {observer : Observer P S ω} {watcher : ω}
    (next : Next allowed ⟨p, .running observer watcher⟩ later) (valid : p.settings.validate = .ok ()) :
    ∃ result t journal, Iteration.Course p.strategies p.session result t journal ∧
      later.problem.state = t.state ∧ later.problem.session.rng = t.rng := by
  cases next with
  | goesOn made | ends made => exact ((step_eq_iff valid).1 made).course

omit [Score S] in
theorem Sound.idle (allows : allowed p.strategies) (good : kind p.params) : Sound allowed kind ⟨p, .idle⟩ :=
  ⟨allows, fun busy => absurd rfl busy, good⟩

theorem Sound.next (sound : Sound allowed kind m) (keeps : Keeps allowed kind) (next : Next allowed m later) :
    Sound allowed kind later := by
  cases next with
  | settings => exact .idle sound.strategies sound.params
  | strategies kept => exact .idle kept sound.params
  | rng | memory => exact .idle sound.strategies sound.params
  | starts valid => exact ⟨sound.strategies, fun _ => valid, sound.params⟩
  | goesOn made =>
      have valid := sound.valid (by simp)
      have course := (step_eq_iff valid).1 made
      have settled := (congrArg Settings.validate course.settings).trans valid
      exact ⟨sound.strategies, fun _ => settled, keeps.step sound.strategies sound.params course⟩
  | ends made =>
      have valid := sound.valid (by simp)
      have course := (step_eq_iff valid).1 made
      exact .idle sound.strategies (keeps.step sound.strategies sound.params course)

theorem Sound.leads (sound : Sound allowed kind m) (keeps : Keeps allowed kind) (leads : Leads allowed m later) :
    Sound allowed kind later := by
  induction leads with
  | refl => exact sound
  | tail _ next ih => exact ih.next keeps next

end Moment
end CrossEntropy
