import ConstantRecovery.Proofs.Blob
import ConstantRecovery.Proofs.Code.Positions
import ConstantRecovery.Proofs.Getter.Keys
import ConstantRecovery.Proofs.Getter.TagMapping
import ConstantRecovery.Proofs.Patch.GetterCall
import ConstantRecovery.Proofs.Patch.Sweep

/-!
# Protected constants come back

A protector stores constants in a blob and puts, for each use, a literal and a getter
call into the code: the literal is encoded from the tag of the kind and the offset of
the constant. The patcher undoes this. Decoding the literal gives tag and offset back,
the tag gives the kind, kind and type say how to read, and what is read is what was
stored; so one pass over the body turns each pair into the load of its constant and
touches nothing else.
-/

namespace ConstantRecovery

namespace Constant

/-- What a protector stores of a constant: a number as it is, a text behind its length, of a
default value nothing. -/
def bytes : Constant → List UInt8
  | text value => littleEndianBytes 4 (Text.Utf8.encode value).length ++ Text.Utf8.encode value
  | int32 value => littleEndianBytes 4 value.toUInt32.toNat
  | float32 bits => littleEndianBytes 4 bits.toNat
  | float64 bits => littleEndianBytes 8 bits.toNat
  | defaultOf _ => []

/-- A getter call with this type argument can ask for the constant. -/
def Fits : Constant → TypeSignature → Prop
  | text _, _ => True
  | int32 _, type => type = .int32
  | float32 _, type => type = .float32
  | float64 _, type => type = .float64
  | defaultOf made, type => type = made

end Constant

/-- Bytes that start at an offset hold constants one behind the other, each at a multiple of
four and listed with its offset; gaps hold anything. -/
inductive Packed : Nat → List (Nat × Constant) → List UInt8 → Prop
  | nil (start : Nat) (gap : List UInt8) : Packed start [] gap
  | cons {start : Nat} (gap : List UInt8) {constant : Constant} {rest : List (Nat × Constant)}
      {behind : List UInt8} (aligned : (start + gap.length) % 4 = 0)
      (packed : Packed (start + gap.length + constant.bytes.length) rest behind) :
      Packed start ((start + gap.length, constant) :: rest) (gap ++ constant.bytes ++ behind)

/-- A packed constant lies where it is listed. -/
theorem Packed.exists_split {start : Nat} {constants : List (Nat × Constant)} {bytes : List UInt8}
    (packed : Packed start constants bytes) {offset : Nat} {constant : Constant}
    (listed : (offset, constant) ∈ constants) :
    ∃ front back, bytes = front ++ constant.bytes ++ back ∧ start + front.length = offset := by
  induction packed with
  | nil start gap => cases listed
  | @cons start gap first rest behind aligned packed ih =>
    rcases List.mem_cons.1 listed with same | later
    · obtain ⟨rfl, rfl⟩ := Prod.mk.inj same
      exact ⟨gap, behind, rfl, rfl⟩
    · obtain ⟨front, back, shape, place⟩ := ih later
      refine ⟨gap ++ first.bytes ++ front, back, ?_, ?_⟩
      · rw [shape]
        simp only [List.append_assoc]
      · rw [List.length_append, List.length_append, ← place]
        omega

/-- A stretch of a protected body. -/
inductive Stretch where
  /-- An instruction that has nothing to do with the protection. -/
  | other (instruction : Instruction)
  /-- A literal and a getter call that stand for a constant. -/
  | site (literal call : Instruction) (constant : Constant)

namespace Stretch

/-- The instructions of a stretch under protection. -/
def hidden : Stretch → List Instruction
  | other instruction => [instruction]
  | site literal call _ => [literal, call]

/-- The instructions of a stretch without protection: a constant is loaded where its literal
stands. -/
def plain : Stretch → List Instruction
  | other instruction => [instruction]
  | site literal _ constant => [constant.load.placedAt literal.offset]

/-- The kind of the constant of a stretch. -/
def kind? : Stretch → Option ConstantKind
  | other _ => none
  | site _ _ constant => some constant.kind

end Stretch

/-- Recording kinds one after the other counts them. -/
theorem PatchReport.foldl_record (report : PatchReport) (kinds : List ConstantKind) :
    kinds.foldl record report =
      { report with
        strings := report.strings + kinds.count .string
        numbers := report.numbers + kinds.count .number
        defaults := report.defaults + kinds.count .default } := by
  induction kinds generalizing report with
  | nil => rfl
  | cons kind rest ih =>
    rw [List.foldl_cons, ih]
    cases kind <;> simp [record, Nat.add_assoc, Nat.add_comm 1]

namespace Patcher

variable (patcher : Patcher)

/-- A literal and a call protect a constant: the literal encodes the tag of its kind and where it
is stored, and the call asks the getter for its type. A default value may name any place. -/
def Protects (constants : List (Nat × Constant)) (literal call : Instruction)
    (constant : Constant) : Prop :=
  ∃ offset tag raw type,
    ((offset, constant) ∈ constants ∨ constant.kind = .default) ∧
    patcher.mapping.tagOf? constant.kind = some tag ∧
    patcher.keys.encode? tag offset = some raw ∧
    literal.int32Literal? = some raw ∧ literal.isUnconditional = false ∧
    call.isGetterCall patcher.getter patcher.resolver = true ∧
    (call.instantiation? patcher.resolver).bind (·.arguments.head?) = some type ∧
    constant.Fits type

/-- A stretch is as a protector leaves it: its call site protects the constant, or it calls no
getter. -/
def Admits (constants : List (Nat × Constant)) : Stretch → Prop
  | .other instruction => instruction.isGetterCall patcher.getter patcher.resolver = false
  | .site literal call constant => patcher.Protects constants literal call constant

/-- A call site whose literal encodes where a constant lies stands for that constant. -/
theorem constantAt_of_encode? {site : CallSite} {constant : Constant} {offset : Nat} {tag : UInt32}
    (small : patcher.blob.size ≤ 2 ^ 32)
    (stored : patcher.blob.Holds offset constant.bytes ∨ constant.kind = .default)
    (tagged : patcher.mapping.tagOf? constant.kind = some tag)
    (encoded : patcher.keys.encode? tag offset = some site.raw) (fits : constant.Fits site.type) :
    patcher.constantAt site = .ok constant := by
  obtain ⟨tag_, place⟩ := Keys.decode_of_encode? encoded
  have kind := TagMapping.kind_of_tagOf? tagged
  have addressable : patcher.blob.size < UInt64.size := Nat.lt_of_le_of_lt small (by decide)
  unfold constantAt
  dsimp only
  rw [tag_, place, kind]
  cases constant with
  | text value =>
    have holds := stored.resolve_right nofun
    show Except.map _ (patcher.blob.readText offset) = _
    rw [holds.readText small]
    rfl
  | int32 value =>
    have holds := stored.resolve_right nofun
    rw [fits]
    show Except.map _ (patcher.blob.readInt32 offset) = _
    rw [holds.readInt32 addressable]
    rfl
  | float32 bits =>
    have holds := stored.resolve_right nofun
    rw [fits]
    show Except.map _ (patcher.blob.readUInt32 offset) = _
    rw [holds.readUInt32 addressable]
    rfl
  | float64 bits =>
    have holds := stored.resolve_right nofun
    rw [fits]
    show Except.map _ (patcher.blob.readFloat64 offset) = _
    rw [holds.readFloat64 addressable]
    rfl
  | defaultOf made =>
    show Except.ok (Constant.defaultOf site.type) = _
    rw [fits]

variable {constants : List (Nat × Constant)}

/-- A protected constant collapses to its load. -/
theorem collapse_of_protects {literal call : Instruction} {constant : Constant}
    (small : patcher.blob.size ≤ 2 ^ 32) (packed : Packed 0 constants patcher.blob.bytes)
    (protects : patcher.Protects constants literal call constant) (front : List Instruction) :
    patcher.collapse (front ++ [literal]) call =
      .ok (constant.kind, constant.load.placedAt literal.offset) := by
  obtain ⟨offset, tag, raw, type, listed, tagged, encoded, number, -, -, argument, fits⟩ := protects
  have call_ : (front ++ [literal] ++ [call])[(front ++ [literal]).length]? = some call := by
    rw [List.getElem?_append_right (Nat.le_refl _), Nat.sub_self]
    rfl
  have literal_ : (front ++ [literal] ++ [call])[front.length]? = some literal := by
    rw [List.append_assoc, List.getElem?_append_right (Nat.le_refl _), Nat.sub_self]
    rfl
  have read : patcher.callSite (front ++ [literal] ++ [call]) (front ++ [literal]).length =
      .ok { index := front.length + 1, offset := literal.offset, raw, type } := by
    rw [callSite, readCallSite, call_]
    simp only [List.length_append, List.length_singleton, literal_, number, argument]
    rfl
  have stored : patcher.blob.Holds offset constant.bytes ∨ constant.kind = .default := by
    refine listed.imp_left fun listed => ?_
    obtain ⟨before, back, shape, place⟩ := packed.exists_split listed
    exact ⟨before, back, shape, by omega⟩
  rw [collapse, read]
  show patcher.replacement _ = _
  rw [replacement, patcher.constantAt_of_encode? small stored tagged encoded fits]
  rfl

/-- One pass over a protected body restores it. -/
theorem sweep_hidden (small : patcher.blob.size ≤ 2 ^ 32)
    (packed : Packed 0 constants patcher.blob.bytes) (method : Method) (report : PatchReport)
    (front : List Instruction) {stretches : List Stretch}
    (admits : ∀ stretch ∈ stretches, patcher.Admits constants stretch) :
    patcher.sweep method report front (stretches.flatMap (·.hidden)) =
      ((stretches.filterMap (·.kind?)).foldl PatchReport.record report,
        front ++ stretches.flatMap (·.plain)) := by
  induction stretches generalizing report front with
  | nil =>
    rw [List.flatMap_nil, List.flatMap_nil, List.append_nil]
    rfl
  | cons stretch rest ih =>
    obtain ⟨here, later⟩ := List.forall_mem_cons.1 admits
    cases stretch with
    | other instruction =>
      have passed : instruction.isGetterCall patcher.getter patcher.resolver = false := here
      rw [List.flatMap_cons, List.flatMap_cons]
      show patcher.sweep method report front (instruction :: rest.flatMap (·.hidden)) = _
      rw [sweep, passed, if_neg (by decide), ih _ _ later, List.append_assoc]
      rfl
    | site literal call constant =>
      have protects : patcher.Protects constants literal call constant := here
      have collapsed := patcher.collapse_of_protects small packed protects front
      obtain ⟨-, -, raw, -, -, -, -, number, calm, calls, -⟩ := protects
      have passed : literal.isGetterCall patcher.getter patcher.resolver = false :=
        Instruction.isGetterCall_of_isInt32Load (Instruction.isInt32Load_of_int32Literal? number)
      have kept : withoutForward (front ++ [literal]) call = front ++ [literal] := by
        have still : literal.forwardsTo call.offset = false := by
          rw [Instruction.forwardsTo, calm, Bool.false_and]
        rw [withoutForward, List.getLast?_concat, Option.any_some, still, if_neg (by decide)]
      rw [List.flatMap_cons, List.flatMap_cons]
      show patcher.sweep method report front (literal :: call :: rest.flatMap (·.hidden)) = _
      rw [sweep, passed, if_neg (by decide), sweep, if_pos calls, kept]
      dsimp only
      rw [collapsed]
      dsimp only
      rw [List.dropLast_concat, ih _ _ later, List.append_assoc]
      rfl

/-- Protecting and patching is the identity on constants: the report counts the call sites and
no failure, and the body has the load of each constant in the place of its call site. Everything
else stays, settled; a jump slot follows the first instruction at or behind the old offset. -/
theorem patchMethod_restores (unaided : patcher.cleaner? = none)
    (small : patcher.blob.size ≤ 2 ^ 32) (packed : Packed 0 constants patcher.blob.bytes)
    {stretches : List Stretch} (admits : ∀ stretch ∈ stretches, patcher.Admits constants stretch)
    (token : Token) (name : String) (sharing : Option Interner) :
    let kinds := stretches.filterMap (·.kind?)
    let restored := stretches.flatMap (·.plain)
    let method : Method := { token, name, body := stretches.flatMap (·.hidden) }
    ((patcher.patchMethod method).run sharing).1 =
      ({ methods := 1, strings := kinds.count .string, numbers := kinds.count .number,
         defaults := kinds.count .default, failures := [] },
        { method with
          body := settle 0 (restored.map (·.mapSlots fun target =>
            codeSize (restored.takeWhile (·.offset < target)))) }) := by
  intro kinds restored method
  have swept := patcher.sweep_hidden small packed method .ofMethod [] admits
  rw [List.nil_append, PatchReport.foldl_record] at swept
  rw [patcher.run_patchMethod sharing unaided method, swept, renumber_eq]
  simp only [PatchReport.ofMethod, PatchReport.empty, Nat.zero_add]
  rfl

/-- A text and a number that a protector stored come back. -/
theorem patchMethod_restores_text_and_number :
    let keys : Keys := ⟨5, 7⟩
    let textSpec : Token := ⟨0x2B000001⟩
    let numberSpec : Token := ⟨0x2B000002⟩
    let patcher : Patcher :=
      { getter := ⟨0x06000001⟩
        mapping := ⟨#v[.default, .string, .number, .object], by decide⟩
        keys
        blob := ⟨[2, 0, 0, 0, 111, 107, 0, 0, 42, 0, 0, 0]⟩
        resolver := ⟨fun _ => none, fun token =>
          some ⟨⟨0x06000001⟩, [if token = textSpec then .string else .int32]⟩⟩
        cleaner? := none }
    let raw (tag : UInt32) (offset : Nat) : Int32 := (keys.encode? tag offset).getD 0
    let method : Method :=
      { token := ⟨0x06000002⟩, name := "C::M"
        body := settle 0 [.ldcI4 (raw 1 0), .call textSpec, .nop, .ldcI4 (raw 2 8),
          .call numberSpec, .ret] }
    patcher.cleaner? = none ∧ patcher.blob.size ≤ 2 ^ 32 ∧
      ((patcher.patchMethod method).run none).1 =
        ({ methods := 1, strings := 1, numbers := 1, defaults := 0, failures := [] },
          { method with body := settle 0 [.ldstr "ok", .nop, .ldcI4 42, .ret] }) := by
  intro keys textSpec numberSpec patcher raw method
  let constants : List (Nat × Constant) := [(0, .text "ok"), (8, .int32 42)]
  have packed : Packed 0 constants patcher.blob.bytes := by
    have second : Packed 6 [(8, .int32 42)] [0, 0, 42, 0, 0, 0] :=
      .cons [0, 0] rfl (.nil 12 [])
    exact .cons [] rfl second
  have small : patcher.blob.size ≤ 2 ^ 32 := by decide
  let stretches : List Stretch :=
    [.site ((Instruction.ldcI4 (raw 1 0)).placedAt 0) ((Instruction.call textSpec).placedAt 5)
      (.text "ok"), .other (Instruction.nop.placedAt 10),
      .site ((Instruction.ldcI4 (raw 2 8)).placedAt 11) ((Instruction.call numberSpec).placedAt 16)
      (.int32 42), .other (Instruction.ret.placedAt 21)]
  have admits : ∀ stretch ∈ stretches, patcher.Admits constants stretch := by
    have text : patcher.Protects constants ((Instruction.ldcI4 (raw 1 0)).placedAt 0)
        ((Instruction.call textSpec).placedAt 5) (.text "ok") :=
      ⟨0, 1, raw 1 0, .string, .inl (by decide), by decide +kernel, by decide +kernel,
        by decide +kernel, by decide +kernel, by decide +kernel, by decide +kernel, trivial⟩
    have number : patcher.Protects constants ((Instruction.ldcI4 (raw 2 8)).placedAt 11)
        ((Instruction.call numberSpec).placedAt 16) (.int32 42) :=
      ⟨8, 2, raw 2 8, .int32, .inl (by decide), by decide +kernel, by decide +kernel,
        by decide +kernel, by decide +kernel, by decide +kernel, by decide +kernel, rfl⟩
    have nop : patcher.Admits constants (.other (Instruction.nop.placedAt 10)) :=
      Instruction.isGetterCall_of_no_token (by decide +kernel)
    have ret : patcher.Admits constants (.other (Instruction.ret.placedAt 21)) :=
      Instruction.isGetterCall_of_no_token (by decide +kernel)
    exact List.forall_mem_cons.2 ⟨text, List.forall_mem_cons.2 ⟨nop,
      List.forall_mem_cons.2 ⟨number, List.forall_mem_cons.2 ⟨ret, List.forall_mem_nil _⟩⟩⟩⟩
  have body : method.body = stretches.flatMap (·.hidden) := by decide +kernel
  have restored := patcher.patchMethod_restores rfl small packed admits ⟨0x06000002⟩ "C::M" none
  have whole : method = ⟨⟨0x06000002⟩, "C::M", stretches.flatMap (·.hidden)⟩ :=
    congrArg (Method.mk ⟨0x06000002⟩ "C::M") body
  refine ⟨rfl, small, ?_⟩
  rw [whole, restored]
  decide +kernel

end Patcher

end ConstantRecovery
