import Mathlib.Data.Vector.Basic
import Mathlib.Tactic.Linarith

/-!
# Formats read through a cursor

A parser reads a byte string through a cursor and may fail. A format says which strings
encode which values. `Reads limit p bound F` says that the parser `p` accepts exactly the
format `F`: it returns a value if and only if what lies ahead starts with an encoding of
that value, and it then stands right after it. No encoding is longer than `bound`, and the
statement is about cursors with that much room below `limit`, where a position counter would
overflow.

The rules follow the parser: `Reads.of_pure`, `Reads.of_throw`, `Reads.bind` for sequencing,
`Reads.field` and `Reads.record` for a record read field by field,
`Reads.repeatRead` for a loop of known length, `Reads.guard_remaining` for a check of what is
left, and `Reads.congr` to restate a format.
-/

set_option autoImplicit false

namespace Foundation.ByteFormat

abbrev Byte := BitVec 8

/-- A byte string and a position in it. -/
structure Cursor where
  data : List Byte
  pos : ℕ
deriving DecidableEq

namespace Cursor

/-- What lies ahead. -/
def rest (c : Cursor) : List Byte := c.data.drop c.pos

/-- The cursor moved forward. -/
def advance (c : Cursor) (n : ℕ) : Cursor := { c with pos := c.pos + n }

@[simp] theorem pos_advance (c : Cursor) (n : ℕ) : (c.advance n).pos = c.pos + n := rfl

@[simp] theorem advance_advance (c : Cursor) (m n : ℕ) :
    (c.advance m).advance n = c.advance (m + n) := by
  simp only [advance, Nat.add_assoc]

@[simp] theorem rest_advance (c : Cursor) (n : ℕ) : (c.advance n).rest = c.rest.drop n := by
  simp only [rest, advance, List.drop_drop]

end Cursor

/-- A parser through a cursor that may fail with an error. -/
abbrev Parser (ε α : Type) := StateT Cursor (Except ε) α

/-- Which byte strings encode which values. -/
abbrev Format (α : Type) := α → List Byte → Prop

/-- Reads a known number of values, one after another. -/
def repeatRead {ε α : Type} (read : Parser ε α) : (n : ℕ) → Parser ε (List.Vector α n)
  | 0 => pure .nil
  | n + 1 => do
      let x ← read
      let xs ← repeatRead read n
      pure (.cons x xs)

/-- Encodings one after another. -/
inductive Many {α : Type} (F : Format α) : Format (List α)
  | nil : Many F [] []
  | cons {x : α} {xs : List α} {bytes more : List Byte} (head : F x bytes) (tail : Many F xs more) :
      Many F (x :: xs) (bytes ++ more)

namespace Many

variable {α : Type} {F : Format α} {xs : List α} {bytes : List Byte}

theorem length_le {bound : ℕ} (single : ∀ x bytes, F x bytes → bytes.length ≤ bound)
    (many : Many F xs bytes) : bytes.length ≤ xs.length * bound := by
  induction many with
  | nil => exact Nat.zero_le _
  | cons head _ ih =>
      have := single _ _ head
      rw [List.length_append, List.length_cons, Nat.add_mul]
      omega

theorem le_length {least : ℕ} (single : ∀ x bytes, F x bytes → least ≤ bytes.length)
    (many : Many F xs bytes) : xs.length * least ≤ bytes.length := by
  induction many with
  | nil => simp only [List.length_nil, Nat.zero_mul, Nat.le_refl]
  | cons head _ ih =>
      have := single _ _ head
      rw [List.length_append, List.length_cons, Nat.add_mul]
      omega

/-- A format with one encoding for each value is concatenated value by value. -/
theorem iff_flatMap {encode : α → List Byte} :
    Many (fun x bytes => bytes = encode x) xs bytes ↔ bytes = xs.flatMap encode := by
  induction xs generalizing bytes with
  | nil =>
      constructor
      · rintro ⟨⟩
        rfl
      · rintro rfl
        exact .nil
  | cons x xs ih =>
      constructor
      · rintro (_ | ⟨rfl, tail⟩)
        rw [ih.mp tail, List.flatMap_cons]
      · rintro rfl
        rw [List.flatMap_cons]
        exact .cons rfl (ih.mpr rfl)

end Many

/-- The parser accepts exactly the format, for cursors with room for its longest encoding. -/
structure Reads {ε α : Type} (limit : ℕ) (p : Parser ε α) (bound : ℕ) (F : Format α) : Prop where
  length_le : ∀ x bytes, F x bytes → bytes.length ≤ bound
  run_iff : ∀ c : Cursor, c.pos + bound < limit → ∀ x c',
    p.run c = .ok (x, c') ↔
      ∃ bytes ahead, F x bytes ∧ c.rest = bytes ++ ahead ∧ c' = c.advance bytes.length

namespace Reads

variable {ε α β : Type} {limit m n : ℕ} {p : Parser ε α} {f : α → Parser ε β} {F : Format α}

theorem of_pure (v : α) :
    Reads limit (pure v : Parser ε α) 0 (fun x bytes => x = v ∧ bytes = []) where
  length_le := by
    rintro x bytes ⟨-, rfl⟩
    exact Nat.le_refl _
  run_iff := by
    intro c _ x c'
    change Except.ok (v, c) = Except.ok (x, c') ↔ _
    simp only [Except.ok.injEq, Prod.mk.injEq]
    constructor
    · rintro ⟨rfl, rfl⟩
      exact ⟨[], c.rest, ⟨rfl, rfl⟩, rfl, rfl⟩
    · rintro ⟨_, _, ⟨rfl, rfl⟩, -, rfl⟩
      exact ⟨rfl, rfl⟩

theorem of_throw (e : ε) : Reads limit (throw e : Parser ε α) 0 (fun _ _ => False) where
  length_le := by
    rintro _ _ ⟨⟩
  run_iff := by
    intro c _ x c'
    constructor
    · intro impossible
      cases impossible
    · rintro ⟨_, _, ⟨⟩, -⟩

theorem congr {G : Format α} (reads : Reads limit p m F) (same : ∀ x bytes, F x bytes ↔ G x bytes) :
    Reads limit p m G where
  length_le x bytes encodes := reads.length_le x bytes ((same x bytes).mpr encodes)
  run_iff := by
    intro c room x c'
    simp only [reads.run_iff c room, same]

theorem mono (reads : Reads limit p m F) (le : m ≤ n) : Reads limit p n F where
  length_le x bytes encodes := (reads.length_le x bytes encodes).trans le
  run_iff c room := reads.run_iff c (by omega)

/-- **Sequencing.** The encoding of the first value is followed by that of the second. -/
theorem bind {G : α → Format β} (first : Reads limit p m F)
    (second : ∀ a, Reads limit (f a) n (G a)) :
    Reads limit (p >>= f) (m + n)
      (fun y bytes => ∃ a head tail, F a head ∧ G a y tail ∧ bytes = head ++ tail) where
  length_le := by
    rintro y _ ⟨a, head, tail, encodes, follows, rfl⟩
    have := first.length_le _ _ encodes
    have := (second a).length_le _ _ follows
    rw [List.length_append]
    omega
  run_iff := by
    intro c room y c''
    have split : (p >>= f).run c = .ok (y, c'') ↔
        ∃ a c', p.run c = .ok (a, c') ∧ (f a).run c' = .ok (y, c'') := by
      rw [StateT.run_bind]
      cases ran : p.run c with
      | error e => simp [Bind.bind, Except.bind]
      | ok result =>
          obtain ⟨a, c'⟩ := result
          simp [Bind.bind, Except.bind]
    rw [split]
    constructor
    · rintro ⟨a, c', ran, followed⟩
      obtain ⟨head, ahead, encodes, here, rfl⟩ := (first.run_iff c (by omega) a c').mp ran
      have shorter := first.length_le _ _ encodes
      obtain ⟨tail, ahead', follows, there, rfl⟩ :=
        ((second a).run_iff _ (by rw [Cursor.pos_advance]; omega) y c'').mp followed
      rw [Cursor.rest_advance, here, List.drop_left] at there
      refine ⟨head ++ tail, ahead', ⟨a, head, tail, encodes, follows, rfl⟩, ?_, ?_⟩
      · rw [here, there, List.append_assoc]
      · rw [Cursor.advance_advance, List.length_append]
    · rintro ⟨_, ahead, ⟨a, head, tail, encodes, follows, rfl⟩, here, rfl⟩
      have shorter := first.length_le _ _ encodes
      rw [List.append_assoc] at here
      refine ⟨a, c.advance head.length,
        (first.run_iff c (by omega) _ _).mpr ⟨head, tail ++ ahead, encodes, here, rfl⟩, ?_⟩
      refine ((second a).run_iff _ (by rw [Cursor.pos_advance]; omega) _ _).mpr
        ⟨tail, ahead, follows, ?_, ?_⟩
      · rw [Cursor.rest_advance, here, List.drop_left]
      · rw [Cursor.advance_advance, List.length_append]

/-- **A loop of known length** reads that many encodings. -/
theorem repeatRead (reads : Reads limit p m F) (n : ℕ) :
    Reads limit (ByteFormat.repeatRead p n) (n * m) (fun xs => Many F xs.toList) := by
  induction n with
  | zero =>
      refine ((of_pure (ε := ε) (List.Vector.nil (α := α))).congr ?_).mono (Nat.zero_le _)
      intro xs bytes
      obtain rfl : xs = .nil := Subsingleton.elim _ _
      constructor
      · rintro ⟨-, rfl⟩
        exact .nil
      · rintro ⟨⟩
        exact ⟨rfl, rfl⟩
  | succ n ih =>
      have step := reads.bind fun x => ih.bind fun xs => of_pure (ε := ε) (List.Vector.cons x xs)
      refine (step.congr ?_).mono (by rw [Nat.add_mul]; omega)
      intro xs bytes
      constructor
      · rintro ⟨x, head, _, encodes, ⟨xs, tail, _, many, ⟨rfl, rfl⟩, rfl⟩, rfl⟩
        rw [List.append_nil, List.Vector.toList_cons]
        exact .cons encodes many
      · rw [← List.Vector.cons_head_tail xs, List.Vector.toList_cons]
        rintro (_ | ⟨encodes, many⟩)
        exact ⟨_, _, _, encodes, ⟨_, _, _, many, ⟨rfl, rfl⟩, rfl⟩, by rw [List.append_nil]⟩

/-- **One field of a record.** When the rest of the parser returns a record that holds the
value read, the record's encoding starts with that field. `P` is what the fields read before
fix about the record, and `Q` what the remaining fields must satisfy. -/
theorem field {P Q : β → Prop} {encode : α → List Byte} {remaining : β → List Byte} (get : β → α)
    (first : Reads limit p m (fun x bytes => bytes = encode x))
    (second : ∀ a, Reads limit (f a) n
      (fun y bytes => (P y ∧ get y = a) ∧ Q y ∧ bytes = remaining y)) :
    Reads limit (p >>= f) (m + n)
      (fun y bytes => P y ∧ Q y ∧ bytes = encode (get y) ++ remaining y) := by
  refine (first.bind second).congr ?_
  intro y bytes
  constructor
  · rintro ⟨_, _, _, rfl, ⟨⟨fixed, rfl⟩, ok, rfl⟩, rfl⟩
    exact ⟨fixed, ok, rfl⟩
  · rintro ⟨fixed, ok, rfl⟩
    exact ⟨_, _, _, rfl, ⟨⟨fixed, rfl⟩, ok, rfl⟩, rfl⟩

/-- A field whose values must satisfy `Ok` to have an encoding. -/
theorem fieldIf {P Q : β → Prop} {Ok : α → Prop} {encode : α → List Byte}
    {remaining : β → List Byte} (get : β → α)
    (first : Reads limit p m (fun x bytes => Ok x ∧ bytes = encode x))
    (second : ∀ a, Reads limit (f a) n
      (fun y bytes => (P y ∧ get y = a) ∧ Q y ∧ bytes = remaining y)) :
    Reads limit (p >>= f) (m + n)
      (fun y bytes => P y ∧ (Ok (get y) ∧ Q y) ∧ bytes = encode (get y) ++ remaining y) := by
  refine (first.bind second).congr ?_
  intro y bytes
  constructor
  · rintro ⟨_, _, _, ⟨encodable, rfl⟩, ⟨⟨fixed, rfl⟩, ok, rfl⟩, rfl⟩
    exact ⟨fixed, ⟨encodable, ok⟩, rfl⟩
  · rintro ⟨fixed, ⟨encodable, ok⟩, rfl⟩
    exact ⟨_, _, _, ⟨encodable, rfl⟩, ⟨⟨fixed, rfl⟩, ok, rfl⟩, rfl⟩

/-- The end of a record: all its fields are read. -/
theorem record {P : β → Prop} {v : β} (fixed : ∀ y, P y ↔ y = v) :
    Reads limit (pure v : Parser ε β) 0 (fun y bytes => P y ∧ True ∧ bytes = []) :=
  (of_pure v).congr fun y bytes => by simp only [fixed, true_and]

/-- Refusing input shorter than every encoding refuses nothing more. -/
theorem guard_remaining (reads : Reads limit p m F) (least : ℕ)
    (enough : ∀ x bytes, F x bytes → least ≤ bytes.length) (e : Cursor → ε) :
    Reads limit (get >>= fun c => if c.data.length - c.pos < least then throw (e c) else p) m
      F where
  length_le := reads.length_le
  run_iff := by
    intro c room x c'
    have run : (get >>= fun c => if c.data.length - c.pos < least then throw (e c) else p :
        Parser ε α).run c = if c.data.length - c.pos < least then .error (e c) else p.run c := by
      simp only [StateT.run_bind, StateT.run_get]
      change StateT.run (if c.data.length - c.pos < least then throw (e c) else p) c = _
      split
      · rfl
      · rfl
    rw [run]
    split
    · rename_i short
      constructor
      · rintro ⟨⟩
      · rintro ⟨bytes, ahead, encodes, here, -⟩
        have total := congrArg List.length here
        have := enough x bytes encodes
        rw [Cursor.rest, List.length_drop, List.length_append] at total
        omega
    · exact reads.run_iff c room x c'

/-- What a parser started at a cursor returns, its final position left out. -/
theorem result_iff (reads : Reads limit p m F) {c : Cursor} (room : c.pos + m < limit) (x : α) :
    p.run' c = .ok x ↔ ∃ bytes ahead, F x bytes ∧ c.rest = bytes ++ ahead := by
  have dropped : p.run' c = .ok x ↔ ∃ c', p.run c = .ok (x, c') := by
    change Prod.fst <$> p.run c = .ok x ↔ _
    cases ran : p.run c with
    | error e => simp [Functor.map, Except.map]
    | ok result =>
        obtain ⟨y, c'⟩ := result
        simp [Functor.map, Except.map]
  rw [dropped]
  constructor
  · rintro ⟨c', ran⟩
    obtain ⟨bytes, ahead, encodes, here, -⟩ := (reads.run_iff c room x c').mp ran
    exact ⟨bytes, ahead, encodes, here⟩
  · rintro ⟨bytes, ahead, encodes, here⟩
    exact ⟨_, (reads.run_iff c room x _).mpr ⟨bytes, ahead, encodes, here, rfl⟩⟩

end Reads

end Foundation.ByteFormat
