import ConstantRecovery.Error

/-!
# Reports

A report counts what was replaced and lists what was not. Reports merge by adding
the counts and joining the lists in order.
-/

namespace ConstantRecovery

/-- A call site that was left in place. -/
structure PatchFailure where
  /-- The token of the method it is in. -/
  method : Token
  /-- The name of that method. -/
  name : String
  /-- Where the call stood in the body. -/
  offset : Nat
  /-- What was wrong. -/
  message : String
deriving DecidableEq

namespace PatchFailure

/-- A failure as it is listed. -/
def text (failure : PatchFailure) : String :=
  failure.name ++ " (" ++ failure.method.text ++ ") at " ++ Text.offsetLabel failure.offset ++
    ": " ++ failure.message

end PatchFailure

/-- What was done to a set of methods. -/
structure PatchReport where
  /-- Methods looked at. -/
  methods : Nat
  /-- Call sites that became texts. -/
  strings : Nat
  /-- Call sites that became numbers. -/
  numbers : Nat
  /-- Call sites that became default values. -/
  defaults : Nat
  /-- At most one failure for each method. -/
  failures : List PatchFailure
deriving DecidableEq

namespace PatchReport

/-- Nothing done. -/
def empty : PatchReport := ⟨0, 0, 0, 0, []⟩

/-- The report of one method before its first call site. -/
def ofMethod : PatchReport := { empty with methods := 1 }

/-- How many call sites were replaced. -/
def replaced (report : PatchReport) : Nat :=
  report.strings + report.numbers + report.defaults

/-- Nothing failed. -/
def isClean (report : PatchReport) : Bool := report.failures.isEmpty

/-- Both reports in one. -/
def merge (first second : PatchReport) : PatchReport :=
  { methods := first.methods + second.methods
    strings := first.strings + second.strings
    numbers := first.numbers + second.numbers
    defaults := first.defaults + second.defaults
    failures := first.failures ++ second.failures }

/-- Counts a replaced call site. Objects are never replaced. -/
def record (report : PatchReport) : ConstantKind → PatchReport
  | .string => { report with strings := report.strings + 1 }
  | .number => { report with numbers := report.numbers + 1 }
  | .default => { report with defaults := report.defaults + 1 }
  | .object => report

/-- Lists a call site of a method that was left in place. -/
def fail (report : PatchReport) (method : Method) (offset : Nat) (error : Error) : PatchReport :=
  { report with
    failures := report.failures ++
      [{ method := method.token, name := method.name, offset, message := error.message }] }

/-- Reports may be merged in any grouping. -/
theorem merge_assoc (first second third : PatchReport) :
    (first.merge second).merge third = first.merge (second.merge third) := by
  simp [merge, Nat.add_assoc]

/-- An empty report in front adds nothing. -/
@[simp] theorem empty_merge (report : PatchReport) : empty.merge report = report := by
  simp [merge, empty]

/-- An empty report behind adds nothing. -/
@[simp] theorem merge_empty (report : PatchReport) : report.merge empty = report := by
  simp [merge, empty]

/-- Recording counts one replaced call site, unless it is an object. -/
theorem replaced_record (report : PatchReport) {kind : ConstantKind} (kept : kind ≠ .object) :
    (report.record kind).replaced = report.replaced + 1 := by
  cases kind <;> simp_all [record, replaced] <;> omega

end PatchReport

end ConstantRecovery
