import ConstantRecovery.FiniteMap
import ConstantRecovery.Metadata.TypeSignature

/-!
# Members

Recovery asks two things about a token: the full name of the member it calls, and
the generic method and type arguments behind an instantiation. A `Resolver` answers
both; a `MemberTable` is a resolver filled row by row.
-/

namespace ConstantRecovery

/-- A generic method with its type arguments. -/
structure Instantiation where
  /-- The generic method. -/
  method : Token
  /-- Its type arguments, in order. -/
  arguments : List TypeSignature
deriving DecidableEq

/-- What is known about the tokens of an assembly. -/
structure Resolver where
  /-- The full name of a member. -/
  memberName : Token → Option String
  /-- The instantiation a token stands for. -/
  instantiation : Token → Option Instantiation

/-- Names and instantiations by token. -/
structure MemberTable where
  /-- Full names. -/
  names : FiniteMap Token String
  /-- Instantiations. -/
  specs : FiniteMap Token Instantiation

namespace MemberTable

/-- A table that knows nothing. -/
def empty : MemberTable := ⟨.empty, .empty⟩

/-- Names a token; a later name replaces an earlier one. -/
def addName (table : MemberTable) (token : Token) (name : String) : MemberTable :=
  { table with names := table.names.set token name }

/-- Makes a token an instantiation; a later one replaces an earlier one. -/
def addSpec (table : MemberTable) (token : Token) (spec : Instantiation) : MemberTable :=
  { table with specs := table.specs.set token spec }

/-- How many names and instantiations there are. -/
def size (table : MemberTable) : Nat := table.names.size + table.specs.size

/-- The name of a token: its own, or that of the method it instantiates. -/
def memberName (table : MemberTable) (token : Token) : Option String :=
  match table.names.get? token with
  | some name => some name
  | none => (table.specs.get? token).bind fun spec => table.names.get? spec.method

/-- The table as an answer to both questions. -/
def resolver (table : MemberTable) : Resolver where
  memberName := table.memberName
  instantiation := table.specs.get?

end MemberTable

end ConstantRecovery
