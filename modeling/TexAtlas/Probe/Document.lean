/-
Probe documents. A class is loaded as the document class, anything else as a package
on top of the class `article`. A listing document asks for the table of loaded files;
a classification document asks about each candidate name whether it is defined, and
whether the name with `end` in front is defined too.
-/

import TexAtlas.File.Basic
import TexAtlas.Name.Sorted

namespace TexAtlas.Probe

/-- The class that hosts packages. -/
def hostClass : String := "article"

/-- File name of the host class, as transcripts show it. -/
def hostClassFile : String := hostClass ++ ".cls"

/-- A control word with one argument. -/
def command (name argument : String) : String :=
  "\\" ++ name ++ "\x7b" ++ argument ++ "\x7d"

/-- The lines that load a file. -/
def headerLines (file : File) : List String :=
  match file.role with
  | .documentClass => [command "documentclass" file.stem]
  | _ => [command "documentclass" hostClass, command "usepackage" file.stem]

/-- Lines as text, each closed by a line feed. -/
def closed (lines : List String) : String :=
  String.join (lines.map (fun line => line ++ "\n"))

def header (file : File) : String :=
  closed (headerLines file)

/-- The document whose transcript lists the loaded files. -/
def listingDocument (file : File) : String :=
  closed (headerLines file ++
    ["\\listfiles", command "begin" "document", command "end" "document"])

/-- An argument in braces. -/
def braced (content : String) : String :=
  "\x7b" ++ content ++ "\x7d"

/-- The line that asks about one candidate. -/
def question (candidate : String) : String :=
  command "@ifundefined" candidate ++ braced " " ++
    braced (command "@ifundefined" ("end" ++ candidate) ++
      braced (command "wlog" ("cmd:" ++ candidate)) ++
      braced (command "wlog" ("env:" ++ candidate)))

/-- The document whose transcript tags the candidates that are defined. -/
def classificationDocument (file : File) (candidates : SortedNames) : String :=
  closed (headerLines file ++
    ["\\makeatletter", command "begin" "document"] ++
    candidates.toList.map question ++
    [command "end" "document"])

end TexAtlas.Probe
