import EngineBridge.Session.Basic

/-!
Native strings and their owners.

A text crosses in UTF-8. A string is read in two steps: its length in bytes, and then its bytes,
which are copied to a buffer. An owner that has released its string refuses every further use.
-/

namespace EngineBridge.Bridge

variable {α : Type}

/-- The text of a native string, whether it is live or not. -/
def readString (string : Int) : Bridge String := do
  let (length, _) ← native (Native.stringRead string false 0)
  if length == 0 then return ""
  else
    let (_, copied) ← native (Native.stringRead string true length)
    let buffer := Number.overwrite (List.replicate (length + 1) 0) copied
    Text.ofUtf8 (buffer.take length)

def withString (text : String) (operation : Int → Bridge α) : Bridge α := do
  let string ← native (Native.stringNew (Text.utf8 text))
  releasing (operation string) (native (Native.stringDestroy string))

/-- The text of a native string that the engine has made for the caller, who releases it. -/
def takeString (string : Int) : Bridge String :=
  releasing (readString string) (native (Native.stringDestroy string))

def ownString (string : Int) (isAlive : Bool) : Bridge Nat := do
  let session ← get
  set { session with strings := session.strings ++ [StringCell.mk string isAlive] }
  return session.strings.length

def newString (text : String) : Bridge Nat := do
  let string ← native (Native.stringNew (Text.utf8 text))
  ownString string true

def stringCell (reference : Nat) : Bridge StringCell := do
  match (← get).strings[reference]? with
  | some cell => return cell
  | none => throw .noSuchKey

def liveString (reference : Nat) : Bridge Int := do
  let cell ← stringCell reference
  if cell.isAlive then return cell.string else throw (.lifetime .stringUsedAfterDestroy)

def stringDescription (reference : Nat) : Bridge String := do
  readString (← liveString reference)

def destroyString (reference : Nat) : Bridge Unit := do
  let string ← liveString reference
  native (Native.stringDestroy string)
  modify fun session =>
    { session with strings := session.strings.set reference (StringCell.mk string false) }

def shownString (reference : Nat) : Bridge String := do
  let cell ← stringCell reference
  if cell.isAlive then
    return "GString(" ++ Text.quoted (← stringDescription reference) ++ ")"
  else return "GString(<destroyed>)"

/-- Use an owner for the time of an operation; its string is released at the end unless it was
released before. -/
def usingString (reference : Nat) (operation : Bridge α) : Bridge α :=
  releasing operation do
    if (← stringCell reference).isAlive then destroyString reference

end EngineBridge.Bridge
