import ConstantRecovery.Proofs.Flow.Edges
import ConstantRecovery.Proofs.Getter.Skeleton
import ConstantRecovery.Proofs.Machine.Trail

/-!
# What neutralizing does to edges

Neutralizing keeps every instruction that drives the dispatch and puts a `nop` in the place of
every other one. Branches, jump tables and `ret` stay, and straight code stays straight, so a
block that ends in one of these keeps its edges. Whatever leaves a protected region, throws
or ends a handler becomes straight code: control that went elsewhere, or nowhere, runs into
the block behind.
-/

namespace ConstantRecovery

/-- Control leaves the straight run in a way that no dispatch does. -/
def Flow.escapes : Flow → Bool
  | .leave | .throws | .endFinally => true
  | _ => false

namespace Instruction

variable {instruction : Instruction}

/-- Only `ret` returns. -/
theorem IsBuilt.isPlain_ret (built : instruction.IsBuilt) (returns : instruction.flow = .returns) :
    instruction.isPlain Opcode.Code.ret = true := by
  have plain : ∀ row ∈ Opcode.plainTable, row.2.flow = .returns → row.1 = Opcode.Code.ret := by
    decide
  have extended : ∀ row ∈ Opcode.extendedTable, row.2.flow ≠ .returns := by decide
  obtain ⟨lead, opcode, operand, known, same⟩ := built
  rw [same] at returns ⊢
  change (build lead opcode operand).flow = .returns at returns
  show (build lead opcode operand).isPlain Opcode.Code.ret = true
  have bytes := build_bytes lead opcode operand
  rw [build_flow] at returns
  rw [isPlain, bytes.1, bytes.2]
  cases found : Opcode.lookup lead opcode with
  | none =>
    rw [found] at returns
    cases returns
  | some row =>
    rw [found] at returns
    rcases known with rfl | rfl
    · have same : opcode = Opcode.Code.ret := plain (opcode, row) (mem_of_lookup found) returns
      rw [same]
      rfl
    · exact absurd returns (extended (opcode, row) (mem_of_lookup found))

/-- What drives the dispatch has an operation of a dispatch or jumps. -/
theorem operation_of_drivesDispatch (drives : instruction.drivesDispatch = true) :
    (∃ operation, Operation.ofOpcode? instruction.lead instruction.opcode = some operation ∧
      operation.dispatches = true) ∨ instruction.isBranch = true := by
  simp only [drivesDispatch, Bool.or_eq_true] at drives
  rcases drives with ((((loads | number) | wide) | widens) | returns) | branches
  · obtain ⟨index, loads⟩ := Option.isSome_iff_exists.1 loads
    exact .inl ⟨.loadLocal, operation_of_loadedLocal? loads, rfl⟩
  · obtain ⟨value, number⟩ := Option.isSome_iff_exists.1 number
    exact .inl ⟨.loadConstant, operation_of_int32Literal? number, rfl⟩
  · exact .inl ⟨.loadConstant, operation_of_isPlain wide rfl, rfl⟩
  · exact .inl ⟨.widen, operation_of_isPlain widens rfl, rfl⟩
  · exact .inl ⟨.finish, operation_of_isPlain returns rfl, rfl⟩
  · exact .inr branches

/-- Whatever the machine does with a built instruction that drives the dispatch, it is an operation
of a dispatch. -/
theorem IsBuilt.dispatches (built : instruction.IsBuilt)
    (drives : instruction.drivesDispatch = true) {operation : Operation}
    (known : Operation.ofOpcode? instruction.lead instruction.opcode = some operation) :
    operation.dispatches = true := by
  rcases operation_of_drivesDispatch drives with ⟨other, same, dispatches⟩ | branches
  · rw [known] at same
    cases same
    exact dispatches
  · rw [isBranch, built.flow_eq known] at branches
    cases operation <;> first | rfl | cases branches

/-- What drives the dispatch does not escape. -/
theorem IsBuilt.not_escapes (built : instruction.IsBuilt)
    (drives : instruction.drivesDispatch = true) : instruction.flow.escapes = false := by
  rcases operation_of_drivesDispatch drives with ⟨operation, known, -⟩ | branches
  · rw [built.flow_eq known]
    cases operation <;> rfl
  · rw [isBranch] at branches
    cases flow : instruction.flow <;> rw [flow] at branches <;> first | rfl | cases branches

/-- A built instruction that does not drive the dispatch is straight code or escapes. -/
theorem IsBuilt.flow_of_not_drivesDispatch (built : instruction.IsBuilt)
    (idle : ¬ instruction.drivesDispatch = true) :
    instruction.flow = .sequential ∨ instruction.flow = .call ∨
      instruction.flow.escapes = true := by
  have branches (jumps : instruction.isBranch = true) : instruction.drivesDispatch = true := by
    rw [drivesDispatch, jumps, Bool.or_true]
  cases flow : instruction.flow with
  | sequential => exact .inl rfl
  | call => exact .inr (.inl rfl)
  | leave | throws | endFinally => exact .inr (.inr rfl)
  | conditional | unconditional | switch =>
    exact absurd (branches (by rw [isBranch, flow])) idle
  | returns =>
    have drives : instruction.drivesDispatch = true := by
      rw [drivesDispatch, built.isPlain_ret flow, Bool.or_true, Bool.true_or]
    exact absurd drives idle

/-- A neutralized instruction has the edges it had, unless it escapes: then control goes on behind
it. -/
theorem IsBuilt.edges_neutralized (built : instruction.IsBuilt) (starts : List Nat)
    (next : Option Nat) :
    edges starts next instruction.neutralized =
      if instruction.flow.escapes then next.toList else edges starts next instruction := by
  have passes (offset : Nat) : edges starts next (nop.placedAt offset) = next.toList := rfl
  by_cases drives : instruction.drivesDispatch = true
  · rw [neutralized_of_drivesDispatch drives, built.not_escapes drives, if_neg (by decide)]
  · rw [neutralized, if_neg drives, passes]
    unfold edges
    rcases built.flow_of_not_drivesDispatch drives with flow | flow | escapes
    · rw [flow, if_neg (by decide)]
    · rw [flow, if_neg (by decide)]
    · rw [if_pos escapes]

end Instruction

section Canonicalizing

variable {blocks : List BasicBlock} {resolver : Resolver} {position : Nat} {block : BasicBlock}
  {last : Instruction}

/-- Blocks stay where they are when they become canonical. -/
theorem starts_canonicalize (resolver : Resolver) (blocks : List BasicBlock) :
    (canonicalize resolver blocks).map (·.offset) = blocks.map (·.offset) := by
  rw [canonicalize, List.map_map]
  exact List.map_congr_left fun block _ => block.offset_canonical resolver

/-- A block that is no decode block ends canonically in its last instruction, neutralized. -/
theorem BasicBlock.last?_canonical (other : block.kind? resolver = none) :
    (block.canonical resolver).last? = block.last?.map (·.neutralized) := by
  rw [canonical, other]
  exact List.getLast?_map

/-- In a wired view a block that is no decode block keeps its edges when it becomes canonical, if
its last instruction does not escape; if it does, control goes on to the block behind. -/
theorem Wired.ruledEdges_canonicalize (wired : Wired blocks)
    (built : ∀ instruction ∈ joined blocks, instruction.IsBuilt)
    (here : blocks[position]? = some block) (other : block.kind? resolver = none)
    (ends : block.last? = some last) :
    ruledEdges (canonicalize resolver blocks) position =
      if last.flow.escapes then (behind? blocks position).toList else block.successors := by
  have there : (canonicalize resolver blocks)[position]? = some (block.canonical resolver) := by
    rw [canonicalize, List.getElem?_map, here, Option.map_some]
  have canonicalEnds : (block.canonical resolver).last? = some last.neutralized := by
    rw [BasicBlock.last?_canonical other, ends, Option.map_some]
  have next : behind? (canonicalize resolver blocks) position = behind? blocks position := by
    rw [behind?, behind?, canonicalize, List.length_map]
  have made : last.IsBuilt := by
    apply built last
    exact List.mem_flatMap.2 ⟨block, List.mem_of_getElem? here, List.mem_of_getLast? ends⟩
  rw [ruledEdges_eq there canonicalEnds, starts_canonicalize, next, made.edges_neutralized,
    wired position block here, ruledEdges_eq here ends]

end Canonicalizing

/-- Canonicalizing the live blocks of a stream that the constructors made keeps the edges of each
block that is no decode block, as far as its last instruction does not leave a protected region,
throw or end a handler. Where it does, the canonical block runs into the block behind it. -/
theorem ruledEdges_canonicalize_of_prune? {code : List Instruction}
    (built : ∀ instruction ∈ code, instruction.IsBuilt) (ascending : Ascending code)
    {kept : List BasicBlock} (pruned : prune? (buildBlocks code) = some kept)
    (resolver : Resolver) {position : Nat} {block : BasicBlock} {last : Instruction}
    (here : kept[position]? = some block) (other : block.kind? resolver = none)
    (ends : block.last? = some last) :
    block.successors = ruledEdges kept position ∧
      ruledEdges (canonicalize resolver kept) position =
        if last.flow.escapes then (behind? kept position).toList else block.successors := by
  have stream : Ascending (joined (buildBlocks code)) := by rwa [joined_buildBlocks]
  have wired : Wired kept :=
    (wired_buildBlocks code).of_prune? (headed_buildBlocks code) stream pruned
  have live : ∀ instruction ∈ joined kept, instruction.IsBuilt := by
    intro instruction member
    rw [joined_of_prune? pruned] at member
    exact built instruction ((liveCode_sublist code).subset member)
  exact ⟨wired position block here, wired.ruledEdges_canonicalize live here other ends⟩

/-- A dispatch over three decode paths and three blocks that end in `leave`, `throw` and
`endfinally`. -/
def escapingGetter : List Instruction :=
  settle 0 [.ldloc 0, .switch [32, 35, 37, 38, 44, 50], .ldloc 1, .ret,
    .nop, .branch 0xDE 30, .ldloc 1, .plain 0x7A .bare, .plain 0xDC .bare,
    .plain Opcode.Code.newarr (.token ⟨0x01000001⟩), .ret,
    .plain Opcode.Code.ldtoken (.token ⟨0x01000002⟩), .ret, .call ⟨0x0A000011⟩, .ret]

/-- Names for the members that `escapingGetter` uses. -/
def escapingResolver : Resolver :=
  ⟨fun token => if token = ⟨0x0A000011⟩ then some "System.Text.Encoding::get_UTF8" else none,
    fun _ => none⟩

/-- The getter is made by constructors. -/
theorem isBuilt_escapingGetter : ∀ instruction ∈ escapingGetter, instruction.IsBuilt := by
  decide +kernel

/-- The offsets of the getter grow. -/
theorem ascending_escapingGetter : Ascending escapingGetter :=
  ascending_settle 0 _ (by decide +kernel)

/-- The live blocks of `escapingGetter`; all of them are. -/
def escapingView : List BasicBlock := (prune? (buildBlocks escapingGetter)).getD []

/-- The live blocks of the getter are there. -/
theorem prune?_escapingGetter : prune? (buildBlocks escapingGetter) = some escapingView := by
  decide +kernel

/-- A jump table goes on where it did, a `leave` goes on to the block behind it. -/
theorem ruledEdges_canonicalize_of_leave :
    (∀ instruction ∈ escapingGetter, instruction.IsBuilt) ∧ Ascending escapingGetter ∧
      prune? (buildBlocks escapingGetter) = some escapingView ∧
      ruledEdges (canonicalize escapingResolver escapingView) 0 = [2, 3, 4, 5, 6, 7, 1] ∧
      ruledEdges (canonicalize escapingResolver escapingView) 2 = [3] := by
  have edgesAt {position : Nat} {block : BasicBlock} {last : Instruction}
      (here : escapingView[position]? = some block)
      (other : block.kind? escapingResolver = none) (ends : block.last? = some last) :=
    (ruledEdges_canonicalize_of_prune? isBuilt_escapingGetter ascending_escapingGetter
      prune?_escapingGetter escapingResolver here other ends).2
  let entry : BasicBlock := ⟨0, 0, escapingGetter.take 2, [2, 3, 4, 5, 6, 7, 1]⟩
  let leaver : BasicBlock := ⟨2, 32, (escapingGetter.drop 4).take 2, [1]⟩
  have first : escapingView[0]? = some entry := by decide +kernel
  have third : escapingView[2]? = some leaver := by decide +kernel
  refine ⟨isBuilt_escapingGetter, ascending_escapingGetter, prune?_escapingGetter, ?_, ?_⟩
  · rw [@edgesAt 0 entry ((Instruction.switch [32, 35, 37, 38, 44, 50]).placedAt 1) first
      (by decide +kernel) (by decide +kernel)]
    decide
  · rw [@edgesAt 2 leaver ((Instruction.branch 0xDE 30).placedAt 33) third
      (by decide +kernel) (by decide +kernel)]
    decide +kernel

/-- Canonicalizing does not keep the edges of every block that is no decode block: those that end
in `leave`, `throw` or `endfinally` get an edge to the block behind them. -/
theorem not_ruledEdges_canonicalize :
    ¬ ∀ (resolver : Resolver) (code : List Instruction) (kept : List BasicBlock),
      (∀ instruction ∈ code, instruction.IsBuilt) → Ascending code →
      prune? (buildBlocks code) = some kept → (decodeKinds resolver kept).length = 3 →
      ∀ position block, kept[position]? = some block → block.kind? resolver = none →
        ruledEdges (canonicalize resolver kept) position = block.successors := by
  intro keeps
  let thrower : BasicBlock := ⟨3, 35, (escapingGetter.drop 6).take 2, []⟩
  have here : escapingView[3]? = some thrower := by decide +kernel
  have three : (decodeKinds escapingResolver escapingView).length = 3 := by decide +kernel
  have other : thrower.kind? escapingResolver = none := by decide +kernel
  have kept := keeps escapingResolver escapingGetter escapingView isBuilt_escapingGetter
    ascending_escapingGetter prune?_escapingGetter three 3 thrower here other
  have falls : ruledEdges (canonicalize escapingResolver escapingView) 3 = [4] := by
    decide +kernel
  rw [falls] at kept
  cases kept

end ConstantRecovery
