import DownloadNames.Text.Basic

/-
Joining path parts with a separator and writing each run of separators once.

The separator may be any non-empty text, also one that overlaps itself.  Runs are found from
the left: after a separator the text goes on behind it, and directly repeated separators are
dropped.
-/

namespace DownloadNames.Path

/-- Writes each maximal run of `sep` once.  `skip` counts the characters of the current
separator still to be passed over, `inRun` says that a separator has just ended. -/
def collapseFrom (sep : Text) : (skip : Nat) → (inRun : Bool) → Text → Text
  | _, _, [] => []
  | skip + 1, inRun, _ :: cs => collapseFrom sep skip inRun cs
  | 0, inRun, c :: cs =>
    if Text.beginsWith sep (c :: cs) then
      if inRun then collapseFrom sep (sep.length - 1) true cs
      else sep ++ collapseFrom sep (sep.length - 1) true cs
    else c :: collapseFrom sep 0 false cs

/-- Each maximal run of `sep` written once, runs found from the left. -/
def collapseSeparator (sep s : Text) : Text := collapseFrom sep 0 false s

/-- The separator in force: `/` unless a non-empty one is given. -/
def separatorOr (sep : Text) : Text := if sep = [] then ['/'] else sep

/-- The parts joined with the separator, each run of separators written once. -/
def join (parts : List Text) (sep : Text) : Text :=
  collapseSeparator (separatorOr sep) (Text.joinWith (separatorOr sep) parts)

end DownloadNames.Path
