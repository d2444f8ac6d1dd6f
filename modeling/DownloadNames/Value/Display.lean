import DownloadNames.Value.Basic
import DownloadNames.Decimal.Shortest
import DownloadNames.Text.Quoted

/-
Values as text.

`display` shows a text as it is; inside a list or a mapping, and in messages that name a
value, `written` shows it quoted.
-/

namespace DownloadNames

/-- A number with at least `width` digits. -/
def padded (width n : Nat) : Text :=
  let ds := Text.ofNat n
  List.replicate (width - ds.length) '0' ++ ds

/-- Numbers between commas and spaces. -/
def commaNumbers (ns : List Nat) : Text := Text.joinWith [',', ' '] (ns.map Text.ofNat)

namespace Moment

/-- The offset from universal time, as `+hh:mm`. -/
def displayOffset (minutes : Int) : Text :=
  (if minutes < 0 then '-' else '+') ::
    padded 2 (minutes.natAbs / 60) ++ ':' :: padded 2 (minutes.natAbs % 60)

/-- A moment with its parts in descending order. -/
def display : Moment → Text
  | .date y m d => padded 4 y ++ '-' :: padded 2 m ++ '-' :: padded 2 d
  | .time y m d h mi s us offset =>
    padded 4 y ++ '-' :: padded 2 m ++ '-' :: padded 2 d ++ ' ' ::
      padded 2 h ++ ':' :: padded 2 mi ++ ':' :: padded 2 s
      ++ (if us = 0 then [] else '.' :: padded 6 us)
      ++ (match offset with
        | none => []
        | some minutes => displayOffset minutes)

/-- A span of minutes as a call that builds it: whole days, downwards, and seconds. -/
def writtenSpan (minutes : Int) : Text :=
  let days := minutes.fdiv 1440
  let seconds := (minutes - days * 1440) * 60
  let parts := [("days=", days), ("seconds=", seconds)].filter fun (_, n) => n ≠ 0
  "datetime.timedelta(".toList
    ++ Text.joinWith [',', ' '] (parts.map fun (name, n) => name.toList ++ Text.ofInt n) ++ [')']

/-- A moment as a call that builds it. -/
def written : Moment → Text
  | .date y m d => "datetime.date(".toList ++ commaNumbers [y, m, d] ++ [')']
  | .time y m d h mi s us offset =>
    let small := if us ≠ 0 then [s, us] else if s ≠ 0 then [s] else []
    "datetime.datetime(".toList ++ commaNumbers ([y, m, d, h, mi] ++ small)
      ++ (match offset with
        | none => []
        | some 0 => ", tzinfo=datetime.timezone.utc".toList
        | some minutes =>
          ", tzinfo=datetime.timezone(".toList ++ writtenSpan minutes ++ [')'])
      ++ [')']

end Moment

namespace Scalar

/-- A scalar as text; a text is shown as it is. -/
def display : Scalar → Text
  | .null => "None".toList
  | .bool true => "True".toList
  | .bool false => "False".toList
  | .int i => Text.ofInt i
  | .real d => d.toText
  | .text s => s
  | .bytes b => Text.quotedBytes b
  | .moment m => m.display

/-- A scalar as it is named in messages; a text is quoted. -/
def written : Scalar → Text
  | .text s => Text.quoted s
  | .moment m => m.written
  | s => s.display

end Scalar

namespace Value

mutual

/-- A value as it is named in messages. -/
def written : Value → Text
  | .scalar s => s.written
  | .list items => '[' :: writtenItems items ++ [']']
  | .map entries => '\x7b' :: writtenEntries entries ++ ['\x7d']

/-- The items of a list between commas. -/
def writtenItems : List Value → Text
  | [] => []
  | [v] => written v
  | v :: vs => written v ++ ',' :: ' ' :: writtenItems vs

/-- The entries of a mapping between commas. -/
def writtenEntries : List (Scalar × Value) → Text
  | [] => []
  | [(k, v)] => k.written ++ ':' :: ' ' :: written v
  | (k, v) :: es => k.written ++ ':' :: ' ' :: written v ++ ',' :: ' ' :: writtenEntries es

end

/-- A value as text; a text is shown as it is. -/
def display : Value → Text
  | .scalar s => s.display
  | v => v.written

end Value
end DownloadNames
