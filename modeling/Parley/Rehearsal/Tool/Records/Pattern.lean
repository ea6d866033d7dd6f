import Parley.Rehearsal.Expression.Reader
import Parley.Rehearsal.Format

/-!
# Parley.Rehearsal.Tool.Records.Pattern

Regular expressions as scripts for records write them: in the extended dialect, with the escapes of
texts.

* `Records.readPattern`: an expression from its text.
-/

namespace Parley
namespace Rehearsal
namespace Records

def dialect : Expression.Dialect :=
  { extended := true, needsOperand := true, needsOpening := false, escapesInSets := true
    hasClasses := false, hasReferences := false }

/-- A regular expression with bytes in the place of letters behind a backslash. -/
def plainPattern : Nat → List Char → List Char
  | 0, cs => cs
  | _ + 1, [] => []
  | fuel + 1, '\\' :: c :: rest =>
    match [('n', '\n'), ('t', '\t'), ('f', '\x0c'), ('r', '\r'), ('b', '\x08'), ('a', '\x07'),
        ('v', '\x0b'), ('"', '"'), ('/', '/')].lookup c with
    | some d => d :: plainPattern fuel rest
    | none =>
      if Format.isOctal c then
        let (d, rest) := Format.octal 0 3 (c :: rest)
        (if d.isAlphanum then [d] else ['\\', d]) ++ plainPattern fuel rest
      else if c.isAlphanum then c :: plainPattern fuel rest
      else '\\' :: c :: plainPattern fuel rest
  | fuel + 1, c :: rest => c :: plainPattern fuel rest

def faultText : Expression.Fault → String
  | .openParenthesis => "missing ')'"
  | .closeParenthesis => "missing '('"
  | .preceding => "missing operand"
  | .openBracket => "bad class -- [], [^] or ["
  | .bareBracket => "bad class -- [], [^] or ["
  | .className => "bad class -- [], [^] or ["
  | f => f.text

def readPattern (bs : Bytes) : Except Expression.Fault Expression :=
  Expression.read? dialect (ofLetters (plainPattern (bs.length + 1) (letters bs)))

/-- What is said about a regular expression that cannot be read. -/
def patternFault (bs : Bytes) (f : Expression.Fault) : String :=
  "regular expression compile failed (" ++ faultText f ++ ")\n" ++ wordOf bs

end Records
end Rehearsal
end Parley
