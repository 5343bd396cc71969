import DevKit.Foundation.CString

namespace DevKit
namespace Console

/-!
# The configuration console

`get_input` collects a line key by key and echoes it.  When the text in front
of the first blank is the name of a private command, it echoes a star for
every further character.  `handle_input` splits the finished line into
arguments, with quotes and backslashes, and runs the command that the first
argument names.

The two functions find the command in different ways.  The line is a list of
bytes without zeros, since the zero key is ignored; characters are unsigned,
as on the processor of the board.
-/

def space : UInt8 := 32

def tab : UInt8 := 9

/-- `END_CHAR` -/
def carriageReturn : UInt8 := 13

def backspace : UInt8 := 8

def del : UInt8 := 127

def star : UInt8 := 42

def quote : UInt8 := 34

def backslash : UInt8 := 92

def inbufSize : Nat := 1024

def maxCmdArg : Nat := 4

/-! ## Commands -/

structure ConfigurationCommand where
  name : Bytes
  isPrivacy : Bool
deriving Repr, DecidableEq

def cmds : List ConfigurationCommand :=
  [⟨literal "help", false⟩,
    ⟨literal "version", false⟩,
    ⟨literal "exit", false⟩,
    ⟨literal "scan", false⟩,
    ⟨literal "set_wifissid", false⟩,
    ⟨literal "set_wifipwd", true⟩,
    ⟨literal "enable_secure", false⟩]

def getConfigurationCommands : List ConfigurationCommand :=
  [⟨literal "set_az_iothub", true⟩,
    ⟨literal "set_dps_uds", true⟩,
    ⟨literal "set_az_iotdps", true⟩]

/-- The commands in the order of `commandAt`. -/
def commands : List ConfigurationCommand :=
  cmds ++ getConfigurationCommands

/-- The first command with a name. -/
def commandNamed (name : Bytes) : Option ConfigurationCommand :=
  commands.find? fun command => decide (command.name = name)

/-! ## Typing -/

/-- The loop of `is_privacy_cmd`, with the name collected so far. -/
def isPrivacyFrom (cmdName : Bytes) : Bytes -> Bool
  | [] => false
  | c :: rest =>
      if c = space then (commandNamed cmdName).elim false ConfigurationCommand.isPrivacy
      else isPrivacyFrom (cmdName ++ [c]) rest

def isPrivacyCmd (text : Bytes) : Bool :=
  isPrivacyFrom [] text

/-- The character that a key puts into the line. -/
def shown (key : UInt8) : UInt8 :=
  if key = tab then space else key

/-- One key other than the end of the line: the line and the echo. -/
def typeKey (text : Bytes) (key : UInt8) : Bytes × Bytes :=
  if key = backspace ∨ key = del then
    if text.length > 0 then (text.dropLast, [backspace, space, backspace]) else (text, [])
  else if shown key < space then (text, [])
  else (text ++ [shown key], [if isPrivacyCmd text = true then star else shown key])

/-- How a call of `get_input` ends when no more keys come. -/
inductive Ending where
  | waiting (text : Bytes)
  | line (text : Bytes)
  | overflow
deriving Repr, DecidableEq

/-- The echo of the keys, and the ending. -/
def getInput (text : Bytes) : List UInt8 -> Bytes × Ending
  | [] => ([], .waiting text)
  | key :: keys =>
      if key = carriageReturn then ([], .line text)
      else
        let typed := typeKey text key
        if typed.1.length ≥ inbufSize then (typed.2, .overflow)
        else (typed.2 ++ (getInput typed.1 keys).1, (getInput typed.1 keys).2)

/-! ## Running -/

/-- The state of the tokenizer in front of a character: the buffer before that
character, the last byte first, and where the arguments begin. -/
structure Tokens where
  front : Bytes
  inArg : Bool
  inQuote : Bool
  argv : List Nat
deriving Repr, DecidableEq

namespace Tokens

/-- `i > 0 && inbuf[i - 1] == '\\' && stat.inArg` -/
def Escaped (tokens : Tokens) : Prop :=
  tokens.front.head? = some backslash ∧ tokens.inArg = true

instance (tokens : Tokens) : Decidable tokens.Escaped :=
  inferInstanceAs (Decidable (_ ∧ _))

/-- The character, and the rest of the line with it, moves over the backslash in
front of it.  This is what a `memcpy` leaves that copies forwards; the two regions
overlap, so the language does not say what another one leaves. -/
def unescape (tokens : Tokens) (c : UInt8) : Tokens :=
  { tokens with front := c :: tokens.front.tail }

def push (tokens : Tokens) (c : UInt8) : Tokens :=
  { tokens with front := c :: tokens.front }

/-- One pass of the loop, for a character that is not the terminator; `none` is
a syntax error. -/
def step (tokens : Tokens) (c : UInt8) : Option Tokens :=
  if c = quote then
    if tokens.Escaped then some (tokens.unescape c)
    else
      match tokens.inQuote, tokens.inArg with
      | false, true => some (tokens.push c)
      | true, false => none
      | false, false =>
          some { tokens.push c with inArg := true, inQuote := true, argv := tokens.argv ++ [tokens.front.length + 1] }
      | true, true => some { tokens.push 0 with inArg := false, inQuote := false }
  else if c = space then
    if tokens.Escaped then some (tokens.unescape c)
    else if tokens.inQuote = false ∧ tokens.inArg = true then some { tokens.push 0 with inArg := false }
    else some (tokens.push c)
  else if tokens.inArg = false then
    some { tokens.push c with inArg := true, argv := tokens.argv ++ [tokens.front.length] }
  else some (tokens.push c)

/-- The loop: the state at its end and the characters that it did not reach.  A
fifth argument ends it; its pointer is written behind the array `argv`, which
nothing reads. -/
def scan (tokens : Tokens) : Bytes -> Option (Tokens × Bytes)
  | [] => if tokens.inQuote = true then none else some (tokens, [])
  | c :: rest =>
      match tokens.step c with
      | none => none
      | some tokens =>
          if tokens.front.length < inbufSize ∧ tokens.argv.length ≤ maxCmdArg then tokens.scan rest
          else if tokens.inQuote = true then none
          else some (tokens, rest)

/-- A pass of the loop calls `memcpy` for overlapping regions: they are one byte
apart, and at least the character and the terminator are copied. -/
def overlaps (tokens : Tokens) : Bytes -> Bool
  | [] => false
  | c :: rest =>
      if (c = quote ∨ c = space) ∧ tokens.Escaped then true
      else
        match tokens.step c with
        | none => false
        | some tokens =>
            if tokens.front.length < inbufSize ∧ tokens.argv.length ≤ maxCmdArg then tokens.overlaps rest else false

def start : Tokens := ⟨[], false, false, []⟩

end Tokens

/-- What becomes of a line. -/
inductive Outcome where
  | syntaxError
  | empty
  | unknown
  | ran (command : ConfigurationCommand)
deriving Repr, DecidableEq

/-- The first argument in the buffer that the loop leaves. -/
def firstArgument (tokens : Tokens) (rest : Bytes) : Option Bytes :=
  tokens.argv.head?.bind fun offset => textOf ((tokens.front.reverse ++ rest ++ [0]).drop offset)

/-- A line of text without its terminator. -/
def handleInput (text : Bytes) : Outcome :=
  match Tokens.start.scan text with
  | none => .syntaxError
  | some (tokens, rest) =>
      match firstArgument tokens rest with
      | none => .empty
      | some name =>
          match commandNamed name with
          | some command => .ran command
          | none => .unknown

end Console
end DevKit
