import TickScript.Bytes

/-! # The instruction set of expressions

    One byte selects an opcode; operands follow it inline.  Opcodes come in families: all
    two-operand folds behave alike, all redirects behave alike, and so on, and the families are
    the constructors here.  Three opcodes select a page, whose operation is the next byte.

    `Opcode.ofByte?` and `Opcode.toByte` are inverse to each other (`ofByte?_toByte`).
-/

namespace TickScript

/-! ## Operand layouts -/

/-- **What follows an opcode byte.** -/
inductive Operand where
  | none
  | uint8
  | int8
  | int32
  | int64
  | single
  /-- Unsigned forward displacement; zero goes to the end. -/
  | jump8
  /-- Signed displacement from the end of the operand. -/
  | jump32
  /-- Signed length, then that many bytes of an expression. -/
  | nested
  /-- A page operation, which may have an operand of its own. -/
  | page
  deriving DecidableEq

/-- The fixed part of the operand, in bytes. -/
def Operand.width : Operand → Nat
  | .none => 0
  | .uint8 | .int8 | .jump8 | .page => 1
  | .int32 | .single | .jump32 | .nested => 4
  | .int64 => 8

/-- The name of the layout. -/
def Operand.name : Operand → String
  | .none => "None"
  | .uint8 => "U8"
  | .int8 => "I8"
  | .int32 => "I32"
  | .int64 => "I64"
  | .single => "F32"
  | .jump8 => "Jump8"
  | .jump32 => "Jump32"
  | .nested => "Nested"
  | .page => "Page"

/-! ## Families -/

/-- The form of a literal. -/
inductive Literal where
  | int8
  | int32
  | int64
  | single
  deriving DecidableEq

/-- **The four variable arrays of an entity.** -/
inductive VariableBank where
  | ints
  | systemInts
  | singles
  | systemSingles
  deriving DecidableEq

/-- Replaces the top value. -/
inductive UnaryOp where
  | neg | boolNot | bitNot | abs | exp | ln | cos | sin | tan | acos | asin | atan | floor | ceil
  deriving DecidableEq

/-- Pops the right side and folds it into the left. -/
inductive BinaryOp where
  | add | sub | mul | div | rem | pow
  | equals | notEquals | gt | ge | lt | le
  | boolAnd | boolOr | boolXor | bitAnd | bitOr | bitXor
  | log
  deriving DecidableEq

/-- When a jump is taken. -/
inductive JumpTest where
  | always
  | ifZero
  | ifNonZero
  deriving DecidableEq

/-- **Relation that names another entity.** -/
inductive Role where
  /-- The root of a player, by number. -/
  | player
  | parent
  | root
  /-- The first helper with an id. -/
  | helper
  /-- The first target with a script id. -/
  | target
  /-- A teammate, by index. -/
  | partner
  /-- An opponent, by index. -/
  | enemy
  /-- An opponent, by rank of distance. -/
  | enemyNear
  /-- The entity with a script id. -/
  | scriptId
  /-- An entity, by place in the run order. -/
  | runIndex
  /-- A helper, by index. -/
  | helperIndex
  /-- The nearest opponent. -/
  | nearestEnemy
  /-- The root of the player whose library runs the state. -/
  | stateOwner
  deriving DecidableEq

/-- Whether the role pops a selector. -/
def Role.takesSelector : Role → Bool
  | .parent | .root | .nearestEnemy | .stateOwner => false
  | _ => true

/-- A plain field of an entity. -/
inductive Field where
  | time | stateNo | prevStateNo | ctrl | anim | animElem | facing | alive
  | life | lifeMax | power | powerMax | id | hitPauseTime | hitCount | moveHit | moveContact
  | teamSide | playerNo
  deriving DecidableEq

/-- A coordinate of the plane, read in the coordinates of the entity that asks. -/
inductive Coordinate where
  | posX | posY | velX | velY
  deriving DecidableEq

/-- A question that replaces its argument on top of the stack. -/
inductive Query where
  | isHelper | numHelper | numTarget | numExplod | scriptIdExists
  deriving DecidableEq

/-- A number about the roster. -/
inductive Tally where
  | numEnemy | numPartner | gameTime | roundState
  deriving DecidableEq

/-- The three pages. -/
inductive Page where
  | constants
  | stores
  | extended
  deriving DecidableEq

/-! ## Opcodes -/

/-- **Opcode.** -/
inductive Opcode where
  | literal (form : Literal)
  | pop
  | dup
  | swap
  /-- Replaces an index by the variable it selects. -/
  | entityVar (bank : VariableBank)
  /-- Pushes a slot of the current window. -/
  | windowSlot
  | unary (op : UnaryOp)
  | binary (op : BinaryOp)
  /-- Pops both alternatives and replaces the condition by one of them. -/
  | ifElse
  | jumpShort (test : JumpTest)
  /-- Jumps while the top value, which stays, is `failed`. -/
  | jumpIfFailed
  | jumpLong (test : JumpTest)
  /-- Runs a nested expression on the current entity. -/
  | run
  /-- Runs a nested expression on the calling entity. -/
  | runUnredirected
  /-- Pushes a random integer below one thousand. -/
  | random
  /-- Rebinds the current entity for the next instruction. -/
  | redirect (role : Role)
  /-- Marks the end of a redirected range; does nothing. -/
  | redirectReset
  | field (f : Field)
  | coordinate (c : Coordinate)
  | stateTypeIs
  | moveTypeIs
  | prevMoveTypeIs
  | query (q : Query)
  | tally (t : Tally)
  | page (p : Page)
  deriving DecidableEq

namespace Opcode

/-- **The opcode of a byte.** -/
def ofByte? : UInt8 → Option Opcode
  | 0x01 => some (.literal .int8)
  | 0x02 => some (.literal .int32)
  | 0x03 => some (.literal .int64)
  | 0x04 => some (.literal .single)
  | 0x08 => some .pop
  | 0x09 => some .dup
  | 0x0a => some .swap
  | 0x10 => some (.entityVar .ints)
  | 0x11 => some (.entityVar .systemInts)
  | 0x12 => some (.entityVar .singles)
  | 0x13 => some (.entityVar .systemSingles)
  | 0x14 => some .windowSlot
  | 0x20 => some (.binary .add)
  | 0x21 => some (.binary .sub)
  | 0x22 => some (.binary .mul)
  | 0x23 => some (.binary .div)
  | 0x24 => some (.binary .rem)
  | 0x25 => some (.binary .pow)
  | 0x26 => some (.unary .neg)
  | 0x30 => some (.binary .equals)
  | 0x31 => some (.binary .notEquals)
  | 0x32 => some (.binary .gt)
  | 0x33 => some (.binary .ge)
  | 0x34 => some (.binary .lt)
  | 0x35 => some (.binary .le)
  | 0x40 => some (.unary .boolNot)
  | 0x41 => some (.binary .boolAnd)
  | 0x42 => some (.binary .boolOr)
  | 0x43 => some (.binary .boolXor)
  | 0x44 => some (.unary .bitNot)
  | 0x45 => some (.binary .bitAnd)
  | 0x46 => some (.binary .bitOr)
  | 0x47 => some (.binary .bitXor)
  | 0x48 => some .ifElse
  | 0x50 => some (.jumpShort .always)
  | 0x51 => some (.jumpShort .ifZero)
  | 0x52 => some (.jumpShort .ifNonZero)
  | 0x53 => some .jumpIfFailed
  | 0x54 => some (.jumpLong .always)
  | 0x55 => some (.jumpLong .ifZero)
  | 0x56 => some (.jumpLong .ifNonZero)
  | 0x57 => some .run
  | 0x58 => some .runUnredirected
  | 0x60 => some (.unary .abs)
  | 0x61 => some (.unary .exp)
  | 0x62 => some (.unary .ln)
  | 0x63 => some (.binary .log)
  | 0x64 => some (.unary .cos)
  | 0x65 => some (.unary .sin)
  | 0x66 => some (.unary .tan)
  | 0x67 => some (.unary .acos)
  | 0x68 => some (.unary .asin)
  | 0x69 => some (.unary .atan)
  | 0x6a => some (.unary .floor)
  | 0x6b => some (.unary .ceil)
  | 0x6c => some .random
  | 0x70 => some (.redirect .player)
  | 0x71 => some (.redirect .parent)
  | 0x72 => some (.redirect .root)
  | 0x73 => some (.redirect .helper)
  | 0x74 => some (.redirect .target)
  | 0x75 => some (.redirect .partner)
  | 0x76 => some (.redirect .enemy)
  | 0x77 => some (.redirect .enemyNear)
  | 0x78 => some (.redirect .scriptId)
  | 0x79 => some (.redirect .runIndex)
  | 0x7a => some (.redirect .helperIndex)
  | 0x7b => some (.redirect .nearestEnemy)
  | 0x7c => some (.redirect .stateOwner)
  | 0x7d => some .redirectReset
  | 0x80 => some (.field .time)
  | 0x81 => some (.field .stateNo)
  | 0x82 => some (.field .prevStateNo)
  | 0x83 => some .stateTypeIs
  | 0x84 => some .moveTypeIs
  | 0x85 => some .prevMoveTypeIs
  | 0x86 => some (.field .ctrl)
  | 0x87 => some (.field .anim)
  | 0x88 => some (.field .animElem)
  | 0x89 => some (.coordinate .posX)
  | 0x8a => some (.coordinate .posY)
  | 0x8b => some (.coordinate .velX)
  | 0x8c => some (.coordinate .velY)
  | 0x8d => some (.field .facing)
  | 0x8e => some (.field .alive)
  | 0x8f => some (.field .life)
  | 0x90 => some (.field .lifeMax)
  | 0x91 => some (.field .power)
  | 0x92 => some (.field .powerMax)
  | 0x93 => some (.field .id)
  | 0x94 => some (.query .isHelper)
  | 0x95 => some (.query .numHelper)
  | 0x96 => some (.query .numTarget)
  | 0x97 => some (.query .numExplod)
  | 0x98 => some (.tally .numEnemy)
  | 0x99 => some (.tally .numPartner)
  | 0x9a => some (.field .hitPauseTime)
  | 0x9b => some (.field .hitCount)
  | 0x9c => some (.field .moveHit)
  | 0x9d => some (.field .moveContact)
  | 0x9e => some (.tally .gameTime)
  | 0x9f => some (.tally .roundState)
  | 0xa0 => some (.query .scriptIdExists)
  | 0xa1 => some (.field .teamSide)
  | 0xa2 => some (.field .playerNo)
  | 0xf0 => some (.page .constants)
  | 0xf1 => some (.page .stores)
  | 0xf2 => some (.page .extended)
  | _ => none

/-- **The byte of an opcode.** -/
def toByte : Opcode → UInt8
  | .literal .int8 => 0x01
  | .literal .int32 => 0x02
  | .literal .int64 => 0x03
  | .literal .single => 0x04
  | .pop => 0x08
  | .dup => 0x09
  | .swap => 0x0a
  | .entityVar .ints => 0x10
  | .entityVar .systemInts => 0x11
  | .entityVar .singles => 0x12
  | .entityVar .systemSingles => 0x13
  | .windowSlot => 0x14
  | .binary .add => 0x20
  | .binary .sub => 0x21
  | .binary .mul => 0x22
  | .binary .div => 0x23
  | .binary .rem => 0x24
  | .binary .pow => 0x25
  | .unary .neg => 0x26
  | .binary .equals => 0x30
  | .binary .notEquals => 0x31
  | .binary .gt => 0x32
  | .binary .ge => 0x33
  | .binary .lt => 0x34
  | .binary .le => 0x35
  | .unary .boolNot => 0x40
  | .binary .boolAnd => 0x41
  | .binary .boolOr => 0x42
  | .binary .boolXor => 0x43
  | .unary .bitNot => 0x44
  | .binary .bitAnd => 0x45
  | .binary .bitOr => 0x46
  | .binary .bitXor => 0x47
  | .ifElse => 0x48
  | .jumpShort .always => 0x50
  | .jumpShort .ifZero => 0x51
  | .jumpShort .ifNonZero => 0x52
  | .jumpIfFailed => 0x53
  | .jumpLong .always => 0x54
  | .jumpLong .ifZero => 0x55
  | .jumpLong .ifNonZero => 0x56
  | .run => 0x57
  | .runUnredirected => 0x58
  | .unary .abs => 0x60
  | .unary .exp => 0x61
  | .unary .ln => 0x62
  | .binary .log => 0x63
  | .unary .cos => 0x64
  | .unary .sin => 0x65
  | .unary .tan => 0x66
  | .unary .acos => 0x67
  | .unary .asin => 0x68
  | .unary .atan => 0x69
  | .unary .floor => 0x6a
  | .unary .ceil => 0x6b
  | .random => 0x6c
  | .redirect .player => 0x70
  | .redirect .parent => 0x71
  | .redirect .root => 0x72
  | .redirect .helper => 0x73
  | .redirect .target => 0x74
  | .redirect .partner => 0x75
  | .redirect .enemy => 0x76
  | .redirect .enemyNear => 0x77
  | .redirect .scriptId => 0x78
  | .redirect .runIndex => 0x79
  | .redirect .helperIndex => 0x7a
  | .redirect .nearestEnemy => 0x7b
  | .redirect .stateOwner => 0x7c
  | .redirectReset => 0x7d
  | .field .time => 0x80
  | .field .stateNo => 0x81
  | .field .prevStateNo => 0x82
  | .stateTypeIs => 0x83
  | .moveTypeIs => 0x84
  | .prevMoveTypeIs => 0x85
  | .field .ctrl => 0x86
  | .field .anim => 0x87
  | .field .animElem => 0x88
  | .coordinate .posX => 0x89
  | .coordinate .posY => 0x8a
  | .coordinate .velX => 0x8b
  | .coordinate .velY => 0x8c
  | .field .facing => 0x8d
  | .field .alive => 0x8e
  | .field .life => 0x8f
  | .field .lifeMax => 0x90
  | .field .power => 0x91
  | .field .powerMax => 0x92
  | .field .id => 0x93
  | .query .isHelper => 0x94
  | .query .numHelper => 0x95
  | .query .numTarget => 0x96
  | .query .numExplod => 0x97
  | .tally .numEnemy => 0x98
  | .tally .numPartner => 0x99
  | .field .hitPauseTime => 0x9a
  | .field .hitCount => 0x9b
  | .field .moveHit => 0x9c
  | .field .moveContact => 0x9d
  | .tally .gameTime => 0x9e
  | .tally .roundState => 0x9f
  | .query .scriptIdExists => 0xa0
  | .field .teamSide => 0xa1
  | .field .playerNo => 0xa2
  | .page .constants => 0xf0
  | .page .stores => 0xf1
  | .page .extended => 0xf2

/-- The name in listings and reports. -/
def name : Opcode → String
  | .literal .int8 => "Int8"
  | .literal .int32 => "Int"
  | .literal .int64 => "Int64"
  | .literal .single => "Float"
  | .pop => "Pop"
  | .dup => "Dup"
  | .swap => "Swap"
  | .entityVar .ints => "Var"
  | .entityVar .systemInts => "SysVar"
  | .entityVar .singles => "FVar"
  | .entityVar .systemSingles => "SysFVar"
  | .windowSlot => "LocalVar"
  | .binary .add => "Add"
  | .binary .sub => "Sub"
  | .binary .mul => "Mul"
  | .binary .div => "Div"
  | .binary .rem => "Mod"
  | .binary .pow => "Pow"
  | .unary .neg => "Neg"
  | .binary .equals => "Eq"
  | .binary .notEquals => "Ne"
  | .binary .gt => "Gt"
  | .binary .ge => "Ge"
  | .binary .lt => "Lt"
  | .binary .le => "Le"
  | .unary .boolNot => "BoolNot"
  | .binary .boolAnd => "BoolAnd"
  | .binary .boolOr => "BoolOr"
  | .binary .boolXor => "BoolXor"
  | .unary .bitNot => "BitNot"
  | .binary .bitAnd => "BitAnd"
  | .binary .bitOr => "BitOr"
  | .binary .bitXor => "BitXor"
  | .ifElse => "IfElse"
  | .jumpShort .always => "Jump8"
  | .jumpShort .ifZero => "JumpIfZero8"
  | .jumpShort .ifNonZero => "JumpIfNonZero8"
  | .jumpIfFailed => "JumpIfSentinel8"
  | .jumpLong .always => "Jump"
  | .jumpLong .ifZero => "JumpIfZero"
  | .jumpLong .ifNonZero => "JumpIfNonZero"
  | .run => "Run"
  | .runUnredirected => "UnredirectedRun"
  | .unary .abs => "Abs"
  | .unary .exp => "Exp"
  | .unary .ln => "Ln"
  | .binary .log => "Log"
  | .unary .cos => "Cos"
  | .unary .sin => "Sin"
  | .unary .tan => "Tan"
  | .unary .acos => "Acos"
  | .unary .asin => "Asin"
  | .unary .atan => "Atan"
  | .unary .floor => "Floor"
  | .unary .ceil => "Ceil"
  | .random => "Random"
  | .redirect .player => "Player"
  | .redirect .parent => "Parent"
  | .redirect .root => "Root"
  | .redirect .helper => "Helper"
  | .redirect .target => "Target"
  | .redirect .partner => "Partner"
  | .redirect .enemy => "Enemy"
  | .redirect .enemyNear => "EnemyNear"
  | .redirect .scriptId => "PlayerId"
  | .redirect .runIndex => "PlayerIndex"
  | .redirect .helperIndex => "HelperIndex"
  | .redirect .nearestEnemy => "P2"
  | .redirect .stateOwner => "StateOwner"
  | .redirectReset => "RedirectReset"
  | .field .time => "Time"
  | .field .stateNo => "StateNo"
  | .field .prevStateNo => "PrevStateNo"
  | .stateTypeIs => "StateTypeIs"
  | .moveTypeIs => "MoveTypeIs"
  | .prevMoveTypeIs => "PrevMoveTypeIs"
  | .field .ctrl => "Ctrl"
  | .field .anim => "Anim"
  | .field .animElem => "AnimElem"
  | .coordinate .posX => "PosX"
  | .coordinate .posY => "PosY"
  | .coordinate .velX => "VelX"
  | .coordinate .velY => "VelY"
  | .field .facing => "Facing"
  | .field .alive => "Alive"
  | .field .life => "Life"
  | .field .lifeMax => "LifeMax"
  | .field .power => "Power"
  | .field .powerMax => "PowerMax"
  | .field .id => "Id"
  | .query .isHelper => "IsHelper"
  | .query .numHelper => "NumHelper"
  | .query .numTarget => "NumTarget"
  | .query .numExplod => "NumExplod"
  | .tally .numEnemy => "NumEnemy"
  | .tally .numPartner => "NumPartner"
  | .field .hitPauseTime => "HitPauseTime"
  | .field .hitCount => "HitCount"
  | .field .moveHit => "MoveHit"
  | .field .moveContact => "MoveContact"
  | .tally .gameTime => "GameTime"
  | .tally .roundState => "RoundState"
  | .query .scriptIdExists => "PlayerIdExist"
  | .field .teamSide => "TeamSide"
  | .field .playerNo => "PlayerNo"
  | .page .constants => "ConstPage"
  | .page .stores => "StorePage"
  | .page .extended => "ExtPage"

/-- Every opcode is read back from its byte. -/
theorem ofByte?_toByte (op : Opcode) : ofByte? op.toByte = some op := by
  cases op with
  | literal f => cases f <;> rfl
  | entityVar b => cases b <;> rfl
  | unary o => cases o <;> rfl
  | binary o => cases o <;> rfl
  | jumpShort t => cases t <;> rfl
  | jumpLong t => cases t <;> rfl
  | redirect r => cases r <;> rfl
  | field f => cases f <;> rfl
  | coordinate c => cases c <;> rfl
  | query q => cases q <;> rfl
  | tally t => cases t <;> rfl
  | page p => cases p <;> rfl
  | _ => rfl

/-- Only its own byte is read as an opcode. -/
theorem toByte_of_ofByte? {b : UInt8} {op : Opcode} (h : ofByte? b = some op) :
    op.toByte = b := by
  unfold ofByte? at h
  split at h <;> cases h <;> rfl

/-- What follows the opcode byte. -/
def operand : Opcode → Operand
  | literal .int8 => .int8
  | literal .int32 => .int32
  | literal .int64 => .int64
  | literal .single => .single
  | windowSlot | stateTypeIs | moveTypeIs | prevMoveTypeIs => .uint8
  | jumpShort _ | jumpIfFailed => .jump8
  | jumpLong _ | redirect _ => .jump32
  | run | runUnredirected => .nested
  | page _ => .page
  | _ => .none

/-- Whether the opcode rebinds the current entity. -/
def isRedirect : Opcode → Bool
  | redirect _ => true
  | _ => false

/-- Whether a selector is popped. -/
def takesSelector : Opcode → Bool
  | redirect role => role.takesSelector
  | _ => false

end Opcode

/-! ## Page operations -/

/-- A constant of the entity's definition. -/
inductive ConstantOp where
  | life | power | attack | defence | xScale | yScale | yAccel | walkForward | walkBack | jump
  /-- A named constant, by the index of its name in the string pool. -/
  | named
  deriving DecidableEq

/-- The operation of a byte. -/
def ConstantOp.ofByte? : UInt8 → Option ConstantOp
  | 0x00 => some .life
  | 0x01 => some .power
  | 0x02 => some .attack
  | 0x03 => some .defence
  | 0x04 => some .xScale
  | 0x05 => some .yScale
  | 0x06 => some .yAccel
  | 0x07 => some .walkForward
  | 0x08 => some .walkBack
  | 0x09 => some .jump
  | 0x0a => some .named
  | _ => none

/-- The byte of the operation. -/
def ConstantOp.toByte : ConstantOp → UInt8
  | .life => 0x00
  | .power => 0x01
  | .attack => 0x02
  | .defence => 0x03
  | .xScale => 0x04
  | .yScale => 0x05
  | .yAccel => 0x06
  | .walkForward => 0x07
  | .walkBack => 0x08
  | .jump => 0x09
  | .named => 0x0a

/-- The name in listings. -/
def ConstantOp.name : ConstantOp → String
  | .life => "DataLife"
  | .power => "DataPower"
  | .attack => "DataAttack"
  | .defence => "DataDefence"
  | .xScale => "SizeXScale"
  | .yScale => "SizeYScale"
  | .yAccel => "MovementYAccel"
  | .walkForward => "VelocityWalkFwdX"
  | .walkBack => "VelocityWalkBackX"
  | .jump => "VelocityJumpY"
  | .named => "Named"

/-- What follows the operation byte. -/
def ConstantOp.operand : ConstantOp → Operand
  | .named => .int32
  | _ => .none

/-- A write to a store of the entity. -/
inductive StoreOp where
  | set (bank : VariableBank)
  | add (bank : VariableBank)
  /-- Sets the named number whose name is at the given index of the string pool. -/
  | setName
  | addName
  deriving DecidableEq

/-- The operation of a byte. -/
def StoreOp.ofByte? : UInt8 → Option StoreOp
  | 0x00 => some (.set .ints)
  | 0x01 => some (.set .systemInts)
  | 0x02 => some (.set .singles)
  | 0x03 => some (.set .systemSingles)
  | 0x04 => some (.add .ints)
  | 0x05 => some (.add .systemInts)
  | 0x06 => some (.add .singles)
  | 0x07 => some (.add .systemSingles)
  | 0x08 => some .setName
  | 0x09 => some .addName
  | _ => none

/-- The byte of the operation. -/
def StoreOp.toByte : StoreOp → UInt8
  | .set .ints => 0x00
  | .set .systemInts => 0x01
  | .set .singles => 0x02
  | .set .systemSingles => 0x03
  | .add .ints => 0x04
  | .add .systemInts => 0x05
  | .add .singles => 0x06
  | .add .systemSingles => 0x07
  | .setName => 0x08
  | .addName => 0x09

/-- The name in listings. -/
def StoreOp.name : StoreOp → String
  | .set .ints => "SetVar"
  | .set .systemInts => "SetSysVar"
  | .set .singles => "SetFVar"
  | .set .systemSingles => "SetSysFVar"
  | .add .ints => "AddVar"
  | .add .systemInts => "AddSysVar"
  | .add .singles => "AddFVar"
  | .add .systemSingles => "AddSysFVar"
  | .setName => "MapSet"
  | .addName => "MapAdd"

/-- What follows the operation byte. -/
def StoreOp.operand : StoreOp → Operand
  | .setName | .addName => .int32
  | _ => .none

/-- The two distances between entities. -/
inductive Axis where
  | x
  | y
  deriving DecidableEq

/-- A plain number of an entity. -/
inductive NumberField where
  | angle | localScale | attackMul
  deriving DecidableEq

/-- Whom a distance is measured to. -/
inductive Landmark where
  | parent
  | root
  | nearestEnemy
  deriving DecidableEq

/-- A coordinate of the third axis. -/
inductive Depth where
  | pos
  | vel
  deriving DecidableEq

/-- Extended mathematics and reads. -/
inductive ExtendedOp where
  | max
  | min
  /-- Pops the upper and the lower bound. -/
  | clamp
  | sign
  | atan2
  | radians
  | degrees
  /-- Pops the share and the far end. -/
  | lerp
  | round
  /-- Pops the upper bound and replaces the lower one by a random integer between them. -/
  | randomRange
  /-- The distance to a related entity, along facing or downwards. -/
  | distance (mark : Landmark) (axis : Axis)
  /-- Pushes a named number. -/
  | getName
  | depth (d : Depth)
  | number (f : NumberField)
  | spritePriority
  deriving DecidableEq

/-- The operation of a byte. -/
def ExtendedOp.ofByte? : UInt8 → Option ExtendedOp
  | 0x00 => some .max
  | 0x01 => some .min
  | 0x02 => some .clamp
  | 0x03 => some .sign
  | 0x04 => some .atan2
  | 0x05 => some .radians
  | 0x06 => some .degrees
  | 0x07 => some .lerp
  | 0x08 => some .round
  | 0x09 => some .randomRange
  | 0x0a => some (.distance .parent .x)
  | 0x0b => some (.distance .parent .y)
  | 0x0c => some (.distance .root .x)
  | 0x0d => some (.distance .root .y)
  | 0x0e => some (.distance .nearestEnemy .x)
  | 0x0f => some (.distance .nearestEnemy .y)
  | 0x10 => some .getName
  | 0x11 => some (.depth .pos)
  | 0x12 => some (.depth .vel)
  | 0x13 => some (.number .angle)
  | 0x14 => some (.number .localScale)
  | 0x15 => some (.number .attackMul)
  | 0x16 => some .spritePriority
  | _ => none

/-- The byte of the operation. -/
def ExtendedOp.toByte : ExtendedOp → UInt8
  | .max => 0x00
  | .min => 0x01
  | .clamp => 0x02
  | .sign => 0x03
  | .atan2 => 0x04
  | .radians => 0x05
  | .degrees => 0x06
  | .lerp => 0x07
  | .round => 0x08
  | .randomRange => 0x09
  | .distance .parent .x => 0x0a
  | .distance .parent .y => 0x0b
  | .distance .root .x => 0x0c
  | .distance .root .y => 0x0d
  | .distance .nearestEnemy .x => 0x0e
  | .distance .nearestEnemy .y => 0x0f
  | .getName => 0x10
  | .depth .pos => 0x11
  | .depth .vel => 0x12
  | .number .angle => 0x13
  | .number .localScale => 0x14
  | .number .attackMul => 0x15
  | .spritePriority => 0x16

/-- The name in listings. -/
def ExtendedOp.name : ExtendedOp → String
  | .max => "Max"
  | .min => "Min"
  | .clamp => "Clamp"
  | .sign => "Sign"
  | .atan2 => "Atan2"
  | .radians => "Rad"
  | .degrees => "Deg"
  | .lerp => "Lerp"
  | .round => "Round"
  | .randomRange => "RandomRange"
  | .distance .parent .x => "ParentDistX"
  | .distance .parent .y => "ParentDistY"
  | .distance .root .x => "RootDistX"
  | .distance .root .y => "RootDistY"
  | .distance .nearestEnemy .x => "P2DistX"
  | .distance .nearestEnemy .y => "P2DistY"
  | .getName => "MapGet"
  | .depth .pos => "PosZ"
  | .depth .vel => "VelZ"
  | .number .angle => "Angle"
  | .number .localScale => "LocalScale"
  | .number .attackMul => "AttackMul"
  | .spritePriority => "SprPriority"

/-- What follows the operation byte. -/
def ExtendedOp.operand : ExtendedOp → Operand
  | .getName => .int32
  | _ => .none

end TickScript
