import StateMachine.Expression.Template
import StateMachine.Number.Arithmetic
import StateMachine.Number.Bits

/-!
# Operations on data

What the operations and comparisons of expressions give for data. Quotients and
remainders of integers go to the floor. Texts, lists and tuples can be joined
and repeated; they are ordered by the first place where they differ.

A new datum is given the identity `id`. Some results are not new: a text joined
with nothing, a text or tuple taken once, and an integer with a plus sign are
the operand itself.
-/

namespace StateMachine.Datum

/-! ## Order -/

/-- What a comparison by order says of two equal things. -/
def atEqual : CompareOp → Bool
  | .le => true
  | .ge => true
  | _ => false

/-- What a comparison by order says, given whether the first is below and whether
    it is above the second. -/
def decideOrder (op : CompareOp) (below above same : Bool) : Bool :=
  match op with
  | .lt => below
  | .le => below || same
  | .gt => above
  | .ge => above || same
  | _ => false

mutual

/-- Compares two data by order. -/
def order (op : CompareOp) : Datum → Datum → Except OperationFault Bool
  | .text _ s, .text _ t => .ok (decideOrder op (decide (s < t)) (decide (t < s)) (s == t))
  | .list _ xs, .list _ ys => orderItems op xs ys
  | .tuple _ xs, .tuple _ ys => orderItems op xs ys
  | v, w =>
    match v.number?, w.number? with
    | some a, some b => .ok (decideOrder op (a.lt b) (b.lt a) (a.same b))
    | _, _ => .error (.unordered op.mark v.kindName w.kindName)

/-- Compares two rows by the first place where they differ. -/
def orderItems (op : CompareOp) : List Datum → List Datum → Except OperationFault Bool
  | [], [] => .ok (atEqual op)
  | [], _ :: _ => .ok (decideOrder op true false false)
  | _ :: _, [] => .ok (decideOrder op false true false)
  | x :: xs, y :: ys => if alike x y then orderItems op xs ys else order op x y

end

/-! ## Elements -/

/-- The characters of a text as texts, with serial numbers from one on. -/
def characters (serial : Nat) : List Char → List Datum
  | [] => []
  | c :: cs => .text (.made serial) (String.ofList [c]) :: characters (serial + 1) cs

/-- The elements of a datum. New ones get serial numbers from one on. -/
def elements (serial : Nat) : Datum → Except OperationFault (List Datum)
  | .list _ items => .ok items
  | .tuple _ items => .ok items
  | .text _ s => .ok (characters serial s.toList)
  | .table _ entries => .ok (entries.map (·.1))
  | v => .error (.notIterable v.kindName)

/-- The number of elements of a datum, if it has any. -/
def size? : Datum → Option Nat
  | .list _ items => some items.length
  | .tuple _ items => some items.length
  | .text _ s => some s.length
  | .table _ entries => some entries.length
  | _ => Option.none

mutual

/-- The kind that keeps a datum from being a key. -/
def keyFault? : Datum → Option String
  | .list _ _ => some "list"
  | .table _ _ => some "dict"
  | .tuple _ items => anyKeyFault? items
  | _ => Option.none

/-- The first kind that keeps one of the data from being a key. -/
def anyKeyFault? : List Datum → Option String
  | [] => Option.none
  | v :: vs => keyFault? v <|> anyKeyFault? vs

end

/-- A datum that can be a key. -/
def key (v : Datum) : Except OperationFault Datum :=
  match v.keyFault? with
  | some kind => .error (.notKey kind)
  | Option.none => .ok v

/-- The entries with a value under a key: in the place the key has, or at the
    end. -/
def putEntry (k v : Datum) : List (Datum × Datum) → List (Datum × Datum)
  | [] => [(k, v)]
  | (l, w) :: rest => if alike k l then (l, v) :: rest else (l, w) :: putEntry k v rest

/-- Does a datum hold another? -/
def holds (container v : Datum) : Except OperationFault Bool :=
  match container, v with
  | .text _ s, .text _ t => .ok (t.isEmpty || Text.contains t s)
  | .text _ _, v => .error (.notInText v.kindName)
  | .table _ entries, v => v.key.map fun v => entries.any fun e => alike v e.1
  | container, v =>
    match container.elements 0 with
    | .ok items => .ok (items.any (alike v))
    | .error _ => .error (.notContainer container.kindName)

/-- Compares two data. -/
def compare (op : CompareOp) (v w : Datum) : Except OperationFault Bool :=
  match op with
  | .eq => .ok (same v w)
  | .ne => .ok (!same v w)
  | .isIn => w.holds v
  | .notIn => (w.holds v).map (!·)
  | .is => .ok (identical v w)
  | .isNot => .ok (!identical v w)
  | op => order op v w

/-! ## Arithmetic -/

/-- A list repeated. -/
def repeated {α : Type} (items : List α) (n : Int) : List α :=
  (List.replicate n.toNat items).flatten

/-- The number that the places and lengths of sequences stay below. -/
def placeLimit : Nat := Binary64.twoPow 63

/-- Is the integer small enough to be a place or a length, or its negative? -/
def isPlace (i : Int) : Bool :=
  -(placeLimit : Int) ≤ i && i < placeLimit

/-- The number of bytes an item of a list takes. -/
def itemBytes : Nat := 8

/-- The items of a list repeated, if there is room for them. -/
def repeatItems (items : List Datum) (n : Int) : Except OperationFault (List Datum) :=
  if items.length * n.toNat * itemBytes < Template.roomLimit then .ok (repeated items n)
  else .error .noMemory

/-- A text repeated, if there is room for it. -/
def repeatText (s : String) (n : Int) : Except OperationFault String :=
  let length := s.length * n.toNat
  if placeLimit ≤ length then .error .hugeText
  else if Template.roomLimit ≤ length then .error .noMemory
  else .ok (String.ofList (repeated s.toList n))

/-- A datum that can be repeated, repeated. -/
def times (id : Identity) (v : Datum) (n : Int) : Except OperationFault Datum :=
  if !isPlace n then .error .hugeCount
  else
    match v with
    | .text _ s => if n = 1 then .ok v else (repeatText s n).map (.text id)
    | .list _ items => (repeatItems items n).map (.list id)
    | .tuple _ items => if n = 1 then .ok v else (repeatItems items n).map (.tuple id)
    | v => .ok v

/-- Can the datum be repeated? -/
def isSequence : Datum → Bool
  | .text _ _ => true
  | .list _ _ => true
  | .tuple _ _ => true
  | _ => false

/-- The kinds do not go together. -/
def misfit (op : BinaryOp) (v w : Datum) : Except OperationFault Datum :=
  let mark := if op = .power then "** or pow()" else op.mark
  match op, v with
  | .shiftRight, .known "print" => .error (.shiftedPrint v.kindName w.kindName)
  | _, _ => .error (.operands mark v.kindName w.kindName)

/-- A number as a floating point number. -/
def toReal : Value.Number → Except OperationFault Binary64
  | .float x => .ok x
  | .int i =>
    match Binary64.ofInt i with
    | .infinite _ => .error .hugeInteger
    | x => .ok x

/-- The quotient of two integers as a floating point number. -/
def quotient (i j : Int) : Except OperationFault Binary64 :=
  match Binary64.ofRatio (decide (i < 0) != decide (j < 0)) i.natAbs j.natAbs with
  | .infinite _ => .error .hugeQuotient
  | x => .ok x

/-- The greatest exponent for which the power of a floating point number is worked
    out. -/
def exponentLimit : Nat := 4096

/-- A whole power of a floating point number. -/
def realPower (x : Binary64) (n : Int) : Except OperationFault Binary64 :=
  if n = 0 then .ok Binary64.one
  else if n < 0 && x.isZero then .error .zeroPower
  else if exponentLimit < n.natAbs then .error (.unknown "a great power")
  else
    match x, Binary64.power x n with
    | .finite _ _ _, .infinite _ => .error .hugePower
    | _, y => .ok y

/-- An integer shifted to the left. -/
def shiftLeft (i j : Int) : Except OperationFault Int :=
  if j < 0 then .error .negativeShift
  else if i = 0 then .ok 0
  else if !isPlace j then .error .hugeShift
  else if 8 * (Template.roomLimit : Int) ≤ j then .error .noMemory
  else .ok (i * Binary64.twoPow j.toNat)

/-- An integer shifted to the right. -/
def shiftRight (i j : Int) : Except OperationFault Int :=
  if j < 0 then .error .negativeShift
  else if (Bits.size i : Int) ≤ j then .ok (if i < 0 then -1 else 0)
  else .ok (i.fdiv (Binary64.twoPow j.toNat))

/-- An operation on two integers. -/
def onIntegers (op : BinaryOp) (i j : Int) : Except OperationFault Value.Number :=
  match op with
  | .add => .ok (.int (i + j))
  | .subtract => .ok (.int (i - j))
  | .multiply => .ok (.int (i * j))
  | .divide => if j = 0 then .error .divideByZero else (quotient i j).map .float
  | .floorDivide => if j = 0 then .error .floorDivideByZero else .ok (.int (i.fdiv j))
  | .modulo => if j = 0 then .error .moduloByZero else .ok (.int (i.fmod j))
  | .power =>
    if 0 ≤ j then .ok (.int (Int.pow i j.toNat))
    else do return .float (← realPower (← toReal (.int i)) j)
  | .shiftLeft => (shiftLeft i j).map .int
  | .shiftRight => (shiftRight i j).map .int
  | .bitAnd => .ok (.int (Bits.and i j))
  | .bitXor => .ok (.int (Bits.xor i j))
  | .bitOr => .ok (.int (Bits.or i j))
  | .product => .error (.operands op.mark "int" "int")

/-- An operation on two floating point numbers; none if there is no such
    operation. -/
def onReals? (op : BinaryOp) (x y : Binary64) : Option (Except OperationFault Binary64) :=
  match op with
  | .add => some (.ok (x.add y))
  | .subtract => some (.ok (x.sub y))
  | .multiply => some (.ok (x.mul y))
  | .divide => some (if y.isZero then .error .floatDivideByZero else .ok (x.div y))
  | .floorDivide => some (if y.isZero then .error .floatFloorDivideByZero else .ok (x.floorDiv y))
  | .modulo => some (if y.isZero then .error .floatModuloByZero else .ok (x.mod y))
  | .power =>
    some (match y.toInt? with
      | some n => realPower x n
      | Option.none => .error (.unknown "a power with a fraction"))
  | _ => Option.none

/-- A number as a new datum. -/
def ofNumber (id : Identity) : Value.Number → Datum
  | .int i => .int id i
  | .float x => .float id x

/-- An operation on bits of two truth values gives a truth value. -/
def onTruths? (op : BinaryOp) (a b : Bool) : Option Bool :=
  match op with
  | .bitAnd => some (a && b)
  | .bitXor => some (a != b)
  | .bitOr => some (a || b)
  | _ => Option.none

/-- An operation on two numbers. -/
def onNumbers (id : Identity) (op : BinaryOp) (v w : Datum) : Except OperationFault Datum :=
  match v.number?, w.number? with
  | some (.int i), some (.int j) =>
    if op = .product then misfit op v w else (onIntegers op i j).map (ofNumber id)
  | some a, some b => do
    match onReals? op (← toReal a) (← toReal b) with
    | some r => return .float id (← r)
    | Option.none => misfit op v w
  | _, _ => misfit op v w

/-- Adds two data. -/
def add (id : Identity) (v w : Datum) : Except OperationFault Datum :=
  match v, w with
  | .text _ s, .text _ t =>
    .ok (if s.isEmpty then w else if t.isEmpty then v else .text id (s ++ t))
  | .list _ xs, .list _ ys => .ok (.list id (xs ++ ys))
  | .tuple _ xs, .tuple _ ys =>
    .ok (if xs.isEmpty then w else if ys.isEmpty then v else .tuple id (xs ++ ys))
  | v, w =>
    if v.isSequence then .error (.joining v.kindName w.kindName) else onNumbers id .add v w

/-- Multiplies two data. -/
def multiply (id : Identity) (v w : Datum) : Except OperationFault Datum :=
  match v.isSequence, w.isSequence, v.int?, w.int? with
  | true, _, _, some j => v.times id j
  | _, true, some i, _ => w.times id i
  | true, _, _, _ => .error (.repeating w.kindName)
  | _, true, _, _ => .error (.repeating v.kindName)
  | _, _, _, _ => onNumbers id .multiply v w

/-- Joins two tables; the entries of the second one count before those of the
    first. -/
def merged (xs ys : List (Datum × Datum)) : List (Datum × Datum) :=
  ys.foldl (fun entries e => putEntry e.1 e.2 entries) xs

/-- The literal of a datum, unless it is too long. Those of truth values are not
    written anew. -/
def toLiteral (id : Identity) (v : Datum) : Except OperationFault Datum :=
  if v.isTooLong then .error .tooLong
  else
    .ok (match v with
      | .int _ _ => .text id.ofNumber v.literal
      | .bool _ => .text .key v.literal
      | v => .text id v.literal)

/-- The text of a datum, unless it is too long. A text is its own. -/
def toText (id : Identity) (v : Datum) : Except OperationFault Datum :=
  match v with
  | .text _ _ => .ok v
  | v => toLiteral id v

/-- The only datum a template with one place is filled with. -/
def only : Datum → Datum
  | .tuple _ [v] => v
  | .table _ [(_, v)] => v
  | v => v

/-- A filled template, which has become the text `t`. One without places to be
    filled is not written anew, and one that is only a place is the text or the
    truth value it is filled with. -/
def filled (id : Identity) (template : Datum) (s t : String) (w : Datum) : Datum :=
  if s = t then template
  else if s.toList.head? = some '%' && s.toList.count '%' = 1 && s.toList.getLast? != some 'c' then
    match w.only with
    | .text other u => .text (if t = u then other else id) t
    | .bool b => .text (if t = literal (.bool b) then .key else id) t
    | _ => .text id t
  else .text id t

/-- Applies an operation. -/
def binary (id : Identity) (op : BinaryOp) (v w : Datum) : Except OperationFault Datum :=
  match op, v, w with
  | .add, v, w => add id v w
  | .multiply, v, w => multiply id v w
  | .modulo, .text i s, w => (Template.fill s w).map fun t => filled id (.text i s) s t w
  | .bitOr, .table _ xs, .table _ ys => .ok (.table id (merged xs ys))
  | op, .bool a, .bool b =>
    match onTruths? op a b with
    | some c => .ok (.bool c)
    | Option.none => onNumbers id op v w
  | op, v, w => onNumbers id op v w

/-- Applies a sign. -/
def signed (id : Identity) (s : Sign) (v : Datum) : Except OperationFault Datum :=
  match v, s with
  | .int _ _, .plus => .ok v
  | .float _ _, .plus => .ok v
  | .float _ x, .minus => .ok (.float id x.neg)
  | v, s =>
    match v.int?, s with
    | some i, .plus => .ok (.int id i)
    | some i, .minus => .ok (.int id (-i))
    | some i, .invert => .ok (.int id (Bits.flipped i))
    | Option.none, s => .error (.badSign s.mark v.kindName)

/-! ## Items -/

/-- A place in a sequence of some length, counted from its end if it is below
    zero. -/
def placeIn (length : Nat) (i : Int) : Option Nat :=
  let n := if i < 0 then i + length else i
  if 0 ≤ n && n < length then some n.toNat else Option.none

/-- The item of a sequence at a place. -/
def itemAt {α : Type} (v : Datum) (items : List α) (index : Datum) : Except OperationFault α :=
  match index.int? with
  | Option.none => .error (.badPlace v.kindName index.kindName)
  | some i =>
    match (placeIn items.length i).bind fun n => items[n]? with
    | some a => .ok a
    | Option.none => .error (if isPlace i then .outside v.kindName else .hugePlace)

/-- An item of a datum that is not made of items. Some kinds give a kind of data
    whose items are of a kind. -/
def noItem (id : Identity) (v : Datum) : Except OperationFault Datum :=
  match v, id with
  | .known name, .made serial =>
    if Known.itemKinds.contains name then .ok (.function (.method "GenericAlias" serial))
    else .error (if Known.isKind name then .noKindItems name else .noItems v.kindName)
  | v, _ => .error (.noItems v.kindName)

/-- The item of a datum. -/
def item (id : Identity) (v index : Datum) : Except OperationFault Datum :=
  match v with
  | .list _ items => itemAt v items index
  | .tuple _ items => itemAt v items index
  | .text _ s => (itemAt v s.toList index).map fun c => .text id (String.ofList [c])
  | .table _ entries => do
    let k ← index.key
    match entries.find? fun e => alike k e.1 with
    | some e => return e.2
    | Option.none => .error (.noEntry k.literal)
  | v => v.noItem id

/-- A bound of a part of a sequence, if it is given. -/
def bound? : Option Datum → Except OperationFault (Option Int)
  | Option.none => .ok Option.none
  | some .none => .ok Option.none
  | some v =>
    match v.int? with
    | some i => .ok (some i)
    | Option.none => .error .badBound

/-- A bound moved between the least and the greatest one; counted from the end if
    it is below zero. -/
def clamped (length least greatest : Int) (i : Int) : Int :=
  max least (min greatest (if i < 0 then i + length else i))

/-- The places from one to another, in steps. -/
def stepped (step stop : Int) : Nat → Int → List Nat
  | 0, _ => []
  | fuel + 1, i =>
    if (0 < step && i < stop) || (step < 0 && stop < i) then
      i.toNat :: stepped step stop fuel (i + step)
    else []

/-- The places of a part of a sequence. -/
def placesOf (length : Nat) (low high : Option Int) (step : Int) : List Nat :=
  let n : Int := length
  if 0 < step then
    let first := (low.map (clamped n 0 n)).getD 0
    let stop := (high.map (clamped n 0 n)).getD n
    stepped step stop length first
  else
    let first := (low.map (clamped n (-1) (n - 1))).getD (n - 1)
    let stop := (high.map (clamped n (-1) (n - 1))).getD (-1)
    stepped step stop length first

/-- The items at places. -/
def itemsAt {α : Type} (items : List α) (places : List Nat) : List α :=
  places.filterMap fun n => items[n]?

/-- A part of a sequence. The whole of a text or tuple is not made anew. -/
def part (id : Identity) (v : Datum) (low high step : Option Datum) :
    Except OperationFault Datum := do
  if !v.isSequence then
    match v with
    | .table _ _ => throw (.notKey "slice")
    | v => return ← v.noItem id
  let step ← bound? step
  let low ← bound? low
  let high ← bound? high
  let step := step.getD 1
  if step = 0 then throw .zeroStep
  match v with
  | .text _ s =>
    let places := placesOf s.length low high step
    if step = 1 && places.length = s.length then return v
    else return .text id (String.ofList (itemsAt s.toList places))
  | .tuple _ items =>
    let places := placesOf items.length low high step
    if step = 1 && places.length = items.length then return v
    else return .tuple id (itemsAt items places)
  | .list _ items => return .list id (itemsAt items (placesOf items.length low high step))
  | v => throw (.noItems v.kindName)

end StateMachine.Datum
