import RetroShareTor.Util.ByteArray

/-!
# Quoting and splitting of control-protocol strings

`quotedString`, `unquotedString` and `splitQuotedStrings` of `StrUtil.cpp`. The scan of
`splitQuotedStrings` is modelled index by index, as the source walks it, so that a read
of `input[i]` at or past the end of the input is visible: the scan is `none` there.
-/

namespace RetroShareTor

/-! ### Quoting -/

/-- The escape of one byte inside `quotedString`: `"` and `\` get a backslash. -/
def quoteByte (c : UInt8) : Bytes :=
  if c = byte '"' then [byte '\\', byte '"']
  else if c = byte '\\' then [byte '\\', byte '\\']
  else [c]

/-- `quotedString(string)`. -/
def quotedString (s : Bytes) : Bytes :=
  byte '"' :: s.flatMap quoteByte ++ [byte '"']

/-- The loop of `unquotedString` after the opening quote: a backslash keeps the byte after
it, a quote ends the string. -/
def unquoteLoop : Bytes → Bytes
  | [] => []
  | c :: cs =>
    if c = byte '\\' then
      match cs with
      | [] => []
      | d :: ds => d :: unquoteLoop ds
    else if c = byte '"' then []
    else c :: unquoteLoop cs

/-- `unquotedString(string)`: a string shorter than two bytes or not opening with a quote
is returned as it is. -/
def unquotedString (s : Bytes) : Bytes :=
  match s with
  | c :: rest => if s.length < 2 ∨ c ≠ byte '"' then s else unquoteLoop rest
  | [] => s

/-! ### Splitting -/

/-- The loop of `splitQuotedStrings` from index `i` with at most `fuel` more iterations,
the quote flag, the start of the current token and the tokens cut so far. It ends with the
tokens and the start of the last one; `none` is a read of `input` at or past its end. -/
def splitLoop (input : Bytes) (separator : UInt8) :
    Nat → Nat → Bool → Nat → List Bytes → Option (List Bytes × Nat)
  | 0, _, _, start, out => some (out, start)
  | fuel + 1, i, inquote, start, out =>
    if h : i < input.length then
      -- the switch on `input[i]`
      let c := input[i]
      let inquote := if c = byte '"' then !inquote else inquote
      let i := if c = byte '\\' && inquote then i + 1 else i
      -- `!inquote && input[i] == separator` reads `input[i]` only when `!inquote`
      if inquote then splitLoop input separator fuel (i + 1) inquote start out
      else do
        let c ← input[i]?
        if c = separator then
          splitLoop input separator fuel (i + 1) inquote (i + 1)
            (out ++ [ByteArray.mid input start (i - start)])
        else splitLoop input separator fuel (i + 1) inquote start out
    else some (out, start)

/-- `splitQuotedStrings(input, separator)`, `none` when the scan reads past the end of
`input`. Each of the at most `input.size()` iterations advances `i`. -/
def splitQuotedStringsScan (input : Bytes) (separator : UInt8) : Option (List Bytes) :=
  (splitLoop input separator input.length 0 false 0 []).map fun r =>
    if r.2 < input.length then r.1 ++ [ByteArray.mid input r.2 (-1)] else r.1

/-- `splitQuotedStrings(input, separator)`: the tokens between unquoted separators. -/
def splitQuotedStrings (input : Bytes) (separator : UInt8) : List Bytes :=
  (splitQuotedStringsScan input separator).getD []

example : splitQuotedStrings (ascii "a \"b c\" d") (byte ' ') =
    [ascii "a", ascii "\"b c\"", ascii "d"] := by decide

end RetroShareTor
