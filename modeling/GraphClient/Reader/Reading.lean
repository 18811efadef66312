import GraphClient.Operation

/-!
Readings: what code that maps the data of a response does with a reader, step by step. It goes to
fields and elements and asks about the values there, and each answer may decide what it does next.
It sees values through the answers alone, and refers to the readers it has by number.
-/

namespace GraphClient

variable {ι : Type} [Domains ι] {α D : Type}

inductive Question (ι : Type) [Domains ι] : Type → Type 1 where
  | isNull : Question ι Bool
  | path : Question ι String
  | string : Question ι (Except DecodeError String)
  | int64 : Question ι (Except DecodeError Int)
  | float : Question ι (Except DecodeError Float)
  | bool : Question ι (Except DecodeError Bool)
  | custom (scalar : ScalarType ι) (t : ι) : Question ι (Except DecodeError (Domains.Carrier t))
  | value : Question ι Json
  | deserialize {α : Type} (shape : Shape α) : Question ι (Except DecodeError α)

namespace Question

def answer (r : Reader ι) : Question ι α → α
  | isNull => r.isNull
  | path => r.path
  | string => r.string
  | int64 => r.int64
  | float => r.float
  | bool => r.bool
  | custom scalar t => r.custom scalar t
  | value => r.value
  | deserialize shape => r.deserialize shape

end Question

/-- The steps of code that comes to a result of type `D`. Every reader it gets has a number, by which
the code refers to it from then on. -/
inductive Reading (ι : Type) [Domains ι] : Type → Type 1 where
  | done {D : Type} (result : Except DecodeError D) : Reading ι D
  | ask {D α : Type} (i : Nat) (q : Question ι α) (next : α → Reading ι D) : Reading ι D
  | field {D : Type} (i : Nat) (name : String) (next : Nat → Reading ι D) : Reading ι D
  | list {D : Type} (i : Nat) (next : Except DecodeError (List Nat) → Reading ι D) : Reading ι D
  | optional {D α : Type} (i : Nat) (read : Reading ι α)
    (next : Except DecodeError (Option α) → Reading ι D) : Reading ι D

/-- The readers that code has got, the one it began with first. -/
structure Readers (ι : Type) [Domains ι] where
  root : Reader ι
  others : List (Reader ι) := []

namespace Readers

/-- The reader of a number. A number that no reader has stands for the first one. -/
def get (rs : Readers ι) : Nat → Reader ι
  | 0 => rs.root
  | i + 1 => rs.others[i]?.getD rs.root

def next (rs : Readers ι) : Nat := rs.others.length + 1

def add (rs : Readers ι) (more : List (Reader ι)) : Readers ι :=
  { rs with others := rs.others ++ more }

end Readers

namespace Reading

/-- What the code comes to, and the readers it has got on the way. -/
def run : {D : Type} → Reading ι D → Readers ι → Except DecodeError D × Readers ι
  | _, done result, rs => (result, rs)
  | _, ask i q next, rs => (next (q.answer (rs.get i))).run rs
  | _, field i name next, rs => (next rs.next).run (rs.add [(rs.get i).field name])
  | _, list i next, rs =>
    match (rs.get i).list with
    | .ok elements =>
      (next (.ok ((List.range elements.length).map (rs.next + ·)))).run (rs.add elements)
    | .error why => (next (.error why)).run rs
  | _, optional i read next, rs =>
    let r := rs.get i
    let after := if r.isNull then rs else (read.run rs).2
    (next (r.optional fun _ => (read.run rs).1)).run after

/-- What the code makes of the value at a reader. -/
def read (p : Reading ι D) (r : Reader ι) : Except DecodeError D := (p.run { root := r }).1

def toMapper (p : Reading ι D) : Mapper ι D where
  map := p.read

/-- Whatever is answered, the code asks nothing else than what is allowed. -/
def Asks (allowed : ∀ {α : Type}, Question ι α → Prop) : {D : Type} → Reading ι D → Prop
  | _, done _ => True
  | _, ask _ q next => allowed q ∧ ∀ answer, (next answer).Asks allowed
  | _, field _ _ next => ∀ i, (next i).Asks allowed
  | _, list _ next => ∀ answer, (next answer).Asks allowed
  | _, optional _ read next => read.Asks allowed ∧ ∀ answer, (next answer).Asks allowed

end Reading

end GraphClient
