import MethodOfLines.Grid.Descriptor

/-!
# Grid/FieldSet — the four buffers of a grid

All four buffers hold `points × fields` values, field by field; that they agree in size is part of
their type. Buffers are replaced whole (`Buffers.set`) or in the part of one field (`setField?`),
and never change size.
-/

namespace MethodOfLines

/-- **Four buffers of one size, one per role.** -/
structure Buffers (α : Type) (n : Nat) where
  state : Vector α n
  stageA : Vector α n
  stageB : Vector α n
  total : Vector α n

namespace Buffers

variable {α : Type} {n : Nat}

/-- The buffer that plays a role. -/
def get (b : Buffers α n) : Role → Vector α n
  | .state => b.state
  | .stageA => b.stageA
  | .stageB => b.stageB
  | .total => b.total

/-- The buffers with one replaced. -/
def set (b : Buffers α n) (role : Role) (v : Vector α n) : Buffers α n :=
  match role with
  | .state => { b with state := v }
  | .stageA => { b with stageA := v }
  | .stageB => { b with stageB := v }
  | .total => { b with total := v }

/-- One buffer to read beside another to write; none if they are the same. -/
def pair? (b : Buffers α n) (read write : Role) : Option (Vector α n × Vector α n) :=
  if read = write then none else some (b.get read, b.get write)

/-- The state, a stage buffer and the running total; none if `stage` is not a stage buffer. -/
def stageViews? (b : Buffers α n) (stage : Role) : Option (Vector α n × Vector α n × Vector α n) :=
  match stage with
  | .stageA => some (b.state, b.stageA, b.total)
  | .stageB => some (b.state, b.stageB, b.total)
  | .state | .total => none

/-- All four buffers with the same value throughout. -/
def fill (n : Nat) (a : α) : Buffers α n :=
  let v := Vector.replicate n a
  ⟨v, v, v, v⟩

@[simp] theorem get_set_self (b : Buffers α n) (r : Role) (v : Vector α n) :
    (b.set r v).get r = v := by
  cases r <;> rfl

theorem get_set_of_ne (b : Buffers α n) {r s : Role} (v : Vector α n) (h : s ≠ r) :
    (b.set r v).get s = b.get s := by
  cases r <;> cases s <;> simp_all [get, set]

theorem ext_get {b c : Buffers α n} (h : ∀ r, b.get r = c.get r) : b = c := by
  obtain ⟨_, _, _, _⟩ := b
  obtain ⟨_, _, _, _⟩ := c
  obtain rfl := h .state
  obtain rfl := h .stageA
  obtain rfl := h .stageB
  obtain rfl := h .total
  rfl

end Buffers

/-- **The grid functions of a grid**: `fields` fields on `points` points, in four buffers. -/
structure FieldSet (α : Type) where
  points : Nat
  fields : Nat
  buffers : Buffers α (points * fields)
  fields_pos : 0 < fields
  size_lt : points * fields < Word.limit

namespace FieldSet

variable {α : Type}

/-- Values per buffer. -/
def size (s : FieldSet α) : Nat := s.points * s.fields

/-- The buffer that plays a role. -/
def buffer (s : FieldSet α) (role : Role) : Vector α (s.points * s.fields) := s.buffers.get role

/-- The set with one buffer replaced. -/
def setBuffer (s : FieldSet α) (role : Role) (v : Vector α (s.points * s.fields)) : FieldSet α :=
  { s with buffers := s.buffers.set role v }

/-- **Buffers of zeros** for `fields` fields on `points` points. -/
def zeroed [Zero α] (points fields : Nat) : Except GridError (FieldSet α) :=
  if hFields : fields = 0 then .error .zeroFields
  else match hSize : Word.mul? points fields with
    | none => .error .pointCountOverflow
    | some _ =>
      .ok
        { points, fields
          buffers := Buffers.fill _ 0
          fields_pos := Nat.pos_of_ne_zero hFields
          size_lt := by have h := Word.mul?_eq_some.mp hSize; rw [h.1]; exact h.2 }

/-- **Given buffers**, taken if all have the size the shape asks for; otherwise the first that has
not is reported. -/
def ofArrays (points fields : Nat) (arrays : Role → Array α) : Except GridError (FieldSet α) :=
  if hFields : fields = 0 then .error .zeroFields
  else match hSize : Word.mul? points fields with
    | none => .error .pointCountOverflow
    | some expected =>
      match hShape : Role.all.find? fun r => (arrays r).size != expected with
      | some r => .error (.shapeMismatch r expected (arrays r).size)
      | none =>
        have h := Word.mul?_eq_some.mp hSize
        have sized : ∀ r, (arrays r).size = points * fields := fun r => by
          have := List.find?_eq_none.mp hShape r (by cases r <;> simp [Role.all])
          rw [h.1]
          simpa using this
        .ok
          { points, fields
            buffers :=
              ⟨⟨arrays .state, sized _⟩, ⟨arrays .stageA, sized _⟩, ⟨arrays .stageB, sized _⟩,
                ⟨arrays .total, sized _⟩⟩
            fields_pos := Nat.pos_of_ne_zero hFields
            size_lt := by rw [h.1]; exact h.2 }

/-- The set with another state, if it has the right size. -/
def setState (s : FieldSet α) (values : Array α) : Except GridError (FieldSet α) :=
  if h : values.size = s.points * s.fields then .ok (s.setBuffer .state ⟨values, h⟩)
  else .error (.shapeMismatch .state s.size values.size)

/-- **The values of one field** in a buffer; none if there is no such field. -/
def field? (s : FieldSet α) (role : Role) (f : Nat) : Option (Array α) :=
  if f < s.fields then
    some ((s.buffer role).toArray.extract (f * s.points) (f * s.points + s.points))
  else none

/-- The set with the values of one field replaced in a buffer. -/
def setField? (s : FieldSet α) (role : Role) (f : Nat) (values : Vector α s.points) :
    Option (FieldSet α) :=
  if f < s.fields then
    some (s.setBuffer role ((s.buffer role).mapIdx fun i old =>
      if f * s.points ≤ i then (values[i - f * s.points]?).getD old else old))
  else none

/-- **Whether the buffers fit a shape.** All four have one size, so the first is
reported. -/
def validateAgainst (s : FieldSet α) (d : Descriptor α) : Except GridError Unit :=
  match Word.mul? d.points s.fields with
  | none => .error .pointCountOverflow
  | some expected =>
    if s.size = expected then .ok () else .error (.shapeMismatch .state expected s.size)

end FieldSet

end MethodOfLines
