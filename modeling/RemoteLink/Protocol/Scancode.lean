import RemoteLink.Protocol.Message

set_option autoImplicit false

/-!
# Scancodes

The keys that a viewer can capture by name, and the table of the scancodes (set 1) that stand for
them on the wire.

## Main definitions

* `NamedKey`, `ScanCode` — keys and their codes.
* `lookupScancode` — the table.

## Main results

* `lookupScancode_ne_none` — every key is in the table.
-/

namespace RemoteLink.Protocol

/-- A scancode of set 1, with the flag of extended keys. -/
structure ScanCode where
  code : UInt32
  extended : Bool
  deriving Repr, DecidableEq

/-- A code without the flag. -/
def ScanCode.new (code : UInt32) : ScanCode := ⟨code, false⟩

/-- A code with the flag. -/
def ScanCode.extendedCode (code : UInt32) : ScanCode := ⟨code, true⟩

/-- A key, whatever the layout. -/
inductive NamedKey where
  | a | b | c | d | e | f | g | h | i | j | k | l | m | n | o | p | q | r | s | t | u | v | w | x
  | y | z | digit0 | digit1 | digit2 | digit3 | digit4 | digit5 | digit6 | digit7 | digit8
  | digit9 | f1 | f2 | f3 | f4 | f5 | f6 | f7 | f8 | f9 | f10 | f11 | f12 | controlLeft
  | controlRight | shiftLeft | shiftRight | altLeft | altRight | metaLeft | metaRight | capsLock
  | numLock | scrollLock | escape | tab | space | enter | backspace | insert | delete | home
  | endKey | pageUp | pageDown | arrowUp | arrowDown | arrowLeft | arrowRight | minus | equal
  | bracketLeft | bracketRight | backslash | semicolon | quote | backquote | comma | period
  | slash | numpad0 | numpad1 | numpad2 | numpad3 | numpad4 | numpad5 | numpad6 | numpad7
  | numpad8 | numpad9 | numpadMultiply | numpadAdd | numpadSubtract | numpadDecimal
  | numpadDivide | numpadEnter | printScreen | pause | contextMenu
  deriving Repr, DecidableEq

/-- The scancode of a key in scan set 1. The code of `pause` is the one of `numLock`. -/
def lookupScancode (key : NamedKey) : Option ScanCode :=
  some <| match key with
  | .a => .new 0x1E
  | .b => .new 0x30
  | .c => .new 0x2E
  | .d => .new 0x20
  | .e => .new 0x12
  | .f => .new 0x21
  | .g => .new 0x22
  | .h => .new 0x23
  | .i => .new 0x17
  | .j => .new 0x24
  | .k => .new 0x25
  | .l => .new 0x26
  | .m => .new 0x32
  | .n => .new 0x31
  | .o => .new 0x18
  | .p => .new 0x19
  | .q => .new 0x10
  | .r => .new 0x13
  | .s => .new 0x1F
  | .t => .new 0x14
  | .u => .new 0x16
  | .v => .new 0x2F
  | .w => .new 0x11
  | .x => .new 0x2D
  | .y => .new 0x15
  | .z => .new 0x2C
  | .digit1 => .new 0x02
  | .digit2 => .new 0x03
  | .digit3 => .new 0x04
  | .digit4 => .new 0x05
  | .digit5 => .new 0x06
  | .digit6 => .new 0x07
  | .digit7 => .new 0x08
  | .digit8 => .new 0x09
  | .digit9 => .new 0x0A
  | .digit0 => .new 0x0B
  | .f1 => .new 0x3B
  | .f2 => .new 0x3C
  | .f3 => .new 0x3D
  | .f4 => .new 0x3E
  | .f5 => .new 0x3F
  | .f6 => .new 0x40
  | .f7 => .new 0x41
  | .f8 => .new 0x42
  | .f9 => .new 0x43
  | .f10 => .new 0x44
  | .f11 => .new 0x57
  | .f12 => .new 0x58
  | .controlLeft => .new 0x1D
  | .controlRight => .extendedCode 0x1D
  | .shiftLeft => .new 0x2A
  | .shiftRight => .new 0x36
  | .altLeft => .new 0x38
  | .altRight => .extendedCode 0x38
  | .metaLeft => .extendedCode 0x5B
  | .metaRight => .extendedCode 0x5C
  | .capsLock => .new 0x3A
  | .numLock => .new 0x45
  | .scrollLock => .new 0x46
  | .escape => .new 0x01
  | .tab => .new 0x0F
  | .space => .new 0x39
  | .enter => .new 0x1C
  | .backspace => .new 0x0E
  | .insert => .extendedCode 0x52
  | .delete => .extendedCode 0x53
  | .home => .extendedCode 0x47
  | .endKey => .extendedCode 0x4F
  | .pageUp => .extendedCode 0x49
  | .pageDown => .extendedCode 0x51
  | .arrowUp => .extendedCode 0x48
  | .arrowDown => .extendedCode 0x50
  | .arrowLeft => .extendedCode 0x4B
  | .arrowRight => .extendedCode 0x4D
  | .minus => .new 0x0C
  | .equal => .new 0x0D
  | .bracketLeft => .new 0x1A
  | .bracketRight => .new 0x1B
  | .backslash => .new 0x2B
  | .semicolon => .new 0x27
  | .quote => .new 0x28
  | .backquote => .new 0x29
  | .comma => .new 0x33
  | .period => .new 0x34
  | .slash => .new 0x35
  | .numpad0 => .new 0x52
  | .numpad1 => .new 0x4F
  | .numpad2 => .new 0x50
  | .numpad3 => .new 0x51
  | .numpad4 => .new 0x4B
  | .numpad5 => .new 0x4C
  | .numpad6 => .new 0x4D
  | .numpad7 => .new 0x47
  | .numpad8 => .new 0x48
  | .numpad9 => .new 0x49
  | .numpadMultiply => .new 0x37
  | .numpadAdd => .new 0x4E
  | .numpadSubtract => .new 0x4A
  | .numpadDecimal => .new 0x53
  | .numpadDivide => .extendedCode 0x35
  | .numpadEnter => .extendedCode 0x1C
  | .printScreen => .extendedCode 0x37
  | .pause => .new 0x45
  | .contextMenu => .extendedCode 0x5D

/-- **Every key is in the table.** -/
theorem lookupScancode_ne_none (key : NamedKey) : lookupScancode key ≠ none :=
  Option.some_ne_none _

end RemoteLink.Protocol
