import TextRules.Text.Basic
import TextRules.Text.Utf8

/-!
Files: what is found under a path, and the text in it. A folder in memory is found through relative paths, as if
    it were the current one; outside of it there are folders, but no files.
-/

namespace TextRules

/-- What is found under a path. -/
inductive FileContent where
  | missing
  /-- Something that is not a file that can be read, such as a folder. -/
  | unreadable
  | bytes (bs : List UInt8)
  deriving DecidableEq

namespace FileContent

/-- Whether there is anything under the path. -/
def isFound : FileContent → Bool
  | missing => false
  | _ => true

/-- The text of a file in UTF-8. -/
def text? : FileContent → Option String
  | bytes bs => (Utf8.decode? bs).map String.ofList
  | _ => none

end FileContent

/-- The files of a folder under their names, which may lead into folders in it. -/
abbrev Folder := List (String × List UInt8)

/-- A place in a folder: the names that lead there, the last of them first. -/
abbrev Place := List (List Char)

namespace Folder

/-- The names on a path between its slashes. -/
def names (path : String) : List (List Char) := Text.splitAt '/' path.toList

/-- Whether a name on a path stays where it is. -/
def stays (name : List Char) : Bool := name = [] || name = ['.']

/-- Whether a name on a path leads to the folder around. -/
def leadsOut (name : List Char) : Bool := name = ['.', '.']

/-- The place of a file that is given by its name. -/
def place (name : String) : Place := ((names name).filter fun step => !stays step).reverse

/-- The bytes of the file at a place. -/
def file? (folder : Folder) (here : Place) : Option (List UInt8) :=
  (folder.find? fun file => place file.1 = here).map (·.2)

/-- Whether there is a folder at a place: some file lies beyond it. -/
def hasFolder (folder : Folder) (here : Place) : Bool := folder.any fun file => here.isSuffixOf (place file.1)

/-- What is found outside: folders, as far as nothing in them is named. -/
def outside (rest : List (List Char)) : FileContent :=
  if rest.all fun name => stays name || leadsOut name then .unreadable else .missing

/-- What is found from a place on. Only a folder has a way on, be it the way out of it. -/
def findFrom (folder : Folder) (here : Place) : List (List Char) → FileContent
  | [] => .unreadable
  | name :: rest =>
    if stays name then folder.findFrom here rest
    else if leadsOut name then
      match here with
      | [] => outside rest
      | _ :: around => folder.findFrom around rest
    else
      match folder.file? (name :: here) with
      | some bytes => if rest.isEmpty then .bytes bytes else .missing
      | none => if folder.hasFolder (name :: here) then folder.findFrom (name :: here) rest else .missing

/-- What is found under a path, which leads from the current folder or from the outermost one. -/
def find (folder : Folder) (path : String) : FileContent :=
  match path.toList with
  | [] => .missing
  | '/' :: _ => outside (names path)
  | _ => folder.findFrom [] (names path)

end Folder
end TextRules
