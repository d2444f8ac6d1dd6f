import DownloadNames.Template.Expand

/-
Problems of a template.

A template is sound if its brackets pair up, every alternative has a name, its literal text
holds none of the characters that a path excludes, and no part between slashes is `..`.
-/

namespace DownloadNames.Template

/-- What can be wrong with a template. -/
inductive Problem where
  | emptyPlaceholder
  | unbalancedBracket
  | emptyAlternative (raw : Text)
  | forbiddenCharacters (chars : Text)
  | pathTraversal
deriving DecidableEq, Repr

/-- The wording of a problem. -/
def Problem.message : Problem → Text
  | .emptyPlaceholder => "Template contains an empty placeholder '<>'".toList
  | .unbalancedBracket => "Template contains an unbalanced '<' or '>'".toList
  | .emptyAlternative raw => "Placeholder ".toList ++ raw ++ " has an empty alternative".toList
  | .forbiddenCharacters chars => "Template contains forbidden characters: ".toList ++ chars
  | .pathTraversal => "Template contains path traversal pattern ('..')".toList

/-- The characters that literal text may not hold, in ascending order; brackets are judged
apart. -/
def forbiddenLiterals : Text := ['"', '*', ':', '?', '|']

/-- An angle bracket. -/
def isBracket (c : Char) : Bool := c == '<' || c == '>'

/-- The template without its placeholders: its literal text. -/
def literalText (template : Text) : Text := placeholderPattern.replace (fun _ => []) template

/-- The problems of a template, in the order in which they are reported. -/
def problems (template : Text) : List Problem :=
  let literal := literalText template
  let forbidden := forbiddenLiterals.filter (· ∈ literal)
  -- an empty placeholder is sought in the whole template, and is not reported a second time as
  -- two unbalanced brackets
  (if Text.occurs ['<', '>'] template then [.emptyPlaceholder] else [])
    ++ (if (Text.replaceAll ['<', '>'] [] literal).any isBracket then [.unbalancedBracket] else [])
    ++ ((placeholders template).filter Placeholder.hasEmptyName).map (.emptyAlternative ·.raw)
    ++ (if forbidden = [] then [] else [.forbiddenCharacters forbidden])
    ++ (if (Text.splitBy Path.isSeparator template).contains ['.', '.'] then [.pathTraversal]
      else [])

end DownloadNames.Template
