/-
Candidate names from source text. Every match of the grammar in the sources of a
component is a candidate, except what the kernel or a component that it reaches defines
already. The scan may name too much but leaves nothing out.
-/

import TexAtlas.Component
import TexAtlas.File.Source
import TexAtlas.Pattern.Parser
import TexAtlas.Pattern.Search

namespace TexAtlas

/-- The grammar of names where none is configured: runs of ASCII letters. -/
def defaultGrammar : String := "[a-zA-Z]+"

structure Scanner where
  grammar : MatchProgram
  read : ByteReader

namespace Scanner

/-- The scanner of a written grammar. -/
def ofPattern (pattern : String) (read : ByteReader) : Except Pattern.SyntaxError Scanner :=
  (Pattern.parse pattern).map (fun grammar => { grammar := grammar.program, read := read })

/-- Every distinct match in a text. -/
def tokenize (scanner : Scanner) (text : String) : SortedNames :=
  SortedNames.ofList ((scanner.grammar.matchesIn text.toList).map String.ofList)

/-- The matches in the source of a file. A source that cannot be read has none. -/
def tokensOf (scanner : Scanner) (file : File) : SortedNames :=
  match file.readSource scanner.read with
  | .ok text => scanner.tokenize text
  | .error _ => .empty

/-- The files whose sources are scanned: the includes of all members, each name once. -/
def sources (members : List Dependency) : List File :=
  firstOfEachName [] (members.flatMap Dependency.includes)

/-- Whether a name is spoken for by the kernel or by a component that is reached. -/
def isTaken (kernel : Kernel) (reached : List Component) (name : String) : Bool :=
  kernel.contains name || reached.any (fun component => component.defines name)

/-- The names that the members could define. -/
def candidates (scanner : Scanner) (members : List Dependency) (kernel : Kernel)
    (reached : List Component) : SortedNames :=
  (((sources members).map scanner.tokensOf).foldl SortedNames.union .empty).filter
    (fun name => !isTaken kernel reached name)

end Scanner

end TexAtlas
