import CrossEntropy.Tensor.Basic

namespace CrossEntropy
variable {α G : Type}

def drawMany (draw : G → α × G) : Nat → G → List α × G
  | 0, g => ([], g)
  | n + 1, g =>
      let (x, g) := draw g
      let (xs, g) := drawMany draw n g
      (x :: xs, g)

@[simp] theorem length_drawMany (draw : G → α × G) (n : Nat) (g : G) :
    (drawMany draw n g).1.length = n := by
  induction n generalizing g with
  | zero => rfl
  | succ n ih => simp [drawMany, ih]

theorem drawMany_add (draw : G → α × G) (m n : Nat) (g : G) :
    drawMany draw (m + n) g =
      ((drawMany draw m g).1 ++ (drawMany draw n (drawMany draw m g).2).1,
        (drawMany draw n (drawMany draw m g).2).2) := by
  induction m generalizing g with
  | zero => simp [drawMany]
  | succ m ih => simp [Nat.succ_add, drawMany, ih]

theorem drawMany_map {β : Type} (draw : G → α × G) (f : α → β) (n : Nat) (g : G) :
    drawMany (fun g => (f (draw g).1, (draw g).2)) n g = ((drawMany draw n g).1.map f, (drawMany draw n g).2) := by
  induction n generalizing g with
  | zero => rfl
  | succ n ih => simp [drawMany, ih]

theorem drawMany_mul (draw : G → α × G) (n m : Nat) (g : G) :
    drawMany draw (n * m) g =
      ((drawMany (drawMany draw m) n g).1.flatten, (drawMany (drawMany draw m) n g).2) := by
  induction n generalizing g with
  | zero => simp [drawMany]
  | succ n ih => simp [Nat.succ_mul, Nat.add_comm, drawMany, drawMany_add, ih]

def drawEach {π : Type} (draw : π → G → α × G) : List π → G → List α × G
  | [], g => ([], g)
  | p :: ps, g =>
      let (x, g) := draw p g
      let (xs, g) := drawEach draw ps g
      (x :: xs, g)

@[simp] theorem length_drawEach {π : Type} (draw : π → G → α × G) (ps : List π) (g : G) :
    (drawEach draw ps g).1.length = ps.length := by
  induction ps generalizing g with
  | nil => rfl
  | cons p ps ih => simp [drawEach, ih]

theorem drawEach_append {π : Type} (draw : π → G → α × G) (ps qs : List π) (g : G) :
    drawEach draw (ps ++ qs) g =
      ((drawEach draw ps g).1 ++ (drawEach draw qs (drawEach draw ps g).2).1,
        (drawEach draw qs (drawEach draw ps g).2).2) := by
  induction ps generalizing g with
  | nil => simp [drawEach]
  | cons p ps ih => simp [drawEach, ih]

theorem drawEach_replicate {π : Type} (draw : π → G → α × G) (ps : List π) (n : Nat) (g : G) :
    drawEach draw (List.replicate n ps).flatten g =
      ((drawMany (drawEach draw ps) n g).1.flatten, (drawMany (drawEach draw ps) n g).2) := by
  induction n generalizing g with
  | zero => rfl
  | succ n ih => simp [List.replicate_succ, drawMany, drawEach_append, ih]

def Tensor.fill (shape : Shape) (draw : G → α × G) (g : G) : Tensor α × G :=
  (⟨shape, (drawMany draw shape.size g).1.toArray, by simp⟩, (drawMany draw shape.size g).2)

end CrossEntropy
