import CrossEntropy.Search.Stage

namespace CrossEntropy.Stage
variable {P α S G σ β γ : Type} {m : Stage P α S G σ β} {f : β → Stage P α S G σ γ}
  {s t u : Session P α S G σ} {before after : Journal P α S}

theorem bind_of_ok {x : β} {result : Except SolveError γ} (first : m s = (.ok x, t, before))
    (rest : f x t = (result, u, after)) : (m >>= f) s = (result, u, before ++ after) := by
  change Stage.bind m f s = _
  simp only [Stage.bind, first, rest]

theorem bind_of_writes {x : β} {entry : Entry P α S} {result : Except SolveError γ}
    (first : m s = (.ok x, t, [entry])) (rest : f x t = (result, u, after)) :
    (m >>= f) s = (result, u, entry :: after) :=
  bind_of_ok first rest

theorem bind_of_silent {x : β} {result : Except SolveError γ} (first : m s = (.ok x, t, []))
    (rest : f x t = (result, u, after)) : (m >>= f) s = (result, u, after) :=
  bind_of_ok first rest

theorem bind_of_error {e : SolveError} (first : m s = (.error e, t, before)) :
    (m >>= f) s = (.error e, t, before) := by
  change Stage.bind m f s = _
  simp only [Stage.bind, first]

theorem map_of_ok {x : β} {g : β → γ} (first : m s = (.ok x, t, before)) :
    (g <$> m) s = (.ok (g x), t, before) := by
  change Stage.map g m s = _
  simp only [Stage.map, first]

theorem map_of_error {e : SolveError} {g : β → γ} (first : m s = (.error e, t, before)) :
    (g <$> m) s = (.error e, t, before) := by
  change Stage.map g m s = _
  simp only [Stage.map, first]

@[simp] theorem pure_apply (x : β) : (pure x : Stage P α S G σ β) s = (.ok x, s, []) := rfl

@[simp] theorem fail_apply (e : SolveError) : (fail e : Stage P α S G σ β) s = (.error e, s, []) := rfl

@[simp] theorem ofExcept_ok (wrap : Failure → SolveError) (x : β) :
    (ofExcept wrap (.ok x) : Stage P α S G σ β) = pure x := rfl

@[simp] theorem pure_bind_apply (x : β) : ((pure x : Stage P α S G σ β) >>= f) s = f x s :=
  rfl

@[simp] theorem current_bind_apply (f : Session P α S G σ → Stage P α S G σ γ) :
    (current >>= f) s = f s s := rfl

@[simp] theorem change_bind_apply (g : Session P α S G σ → Session P α S G σ)
    (f : Unit → Stage P α S G σ γ) : (change g >>= f) s = f () (g s) := rfl

theorem write_bind_of {entry : Entry P α S} {f : Unit → Stage P α S G σ γ}
    {result : Except SolveError γ} (rest : f () s = (result, t, after)) :
    (write entry >>= f) s = (result, t, entry :: after) :=
  bind_of_writes rfl rest

end CrossEntropy.Stage
