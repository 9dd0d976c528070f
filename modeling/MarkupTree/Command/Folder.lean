import MarkupTree.Command.Path
import MarkupTree.Failure

/-!
# Folders of text files

A folder holds texts under file names; the steps of a name before its last are folders inside it.
What lies outside a folder is not known: a name that leaves it leads to no file. The lines of a text
file may end with a line feed, a carriage return, or both.

Results:

* `Text.Newline.unify_of_no_return`: a text without carriage returns stays as it is.
-/

namespace MarkupTree

/-! ## Line breaks -/

namespace Text.Newline

/-- The text with a line feed at the end of every line. -/
def unify : List Char → List Char
  | [] => []
  | '\r' :: '\n' :: rest => '\n' :: unify rest
  | c :: rest => (if c = '\r' then '\n' else c) :: unify rest

theorem unify_of_no_return {cs : List Char} (h : '\r' ∉ cs) : unify cs = cs := by
  fun_induction unify cs with
  | case1 => rfl
  | case2 rest ih => simp at h
  | case3 c rest _ ih =>
    simp only [List.mem_cons, not_or] at h
    rw [if_neg (Ne.symm h.1), ih h.2]

end Text.Newline

namespace Command

/-! ## Folders -/

/-- The files of a folder: their steps and their texts. -/
structure Folder where
  files : List (List String × String)

/-- What is found in a folder at some steps. -/
inductive Folder.Item where
  | file (text : String)
  | folder
  | nothing

namespace Folder

/-- The folder with these file names and texts. -/
def ofFiles (files : List (String × String)) : Folder where
  files := files.map fun file => ((Path.ofString file.1).steps, file.2)

/-- What is at some steps. -/
def item (folder : Folder) (steps : List String) : Item :=
  match folder.files.lookup steps with
  | some text => .file text
  | none => if folder.files.any fun file => steps.isPrefixOf file.1 then .folder else .nothing

/-- The result of following steps that lead out of the folder. -/
def readOutside (path : Path) (steps : List String) : Except Failure String :=
  match steps.dropWhile (· == "..") with
  | [] => .error (.isDirectory path.toString)
  | step :: _ =>
    if Path.isStep step then .error (.fileNotFound path.toString)
    else .error (.nameTooLong path.toString)

/-- Follows the steps of `path` after those that led to the folder at `here`. -/
def walk (folder : Folder) (path : Path) (here : List String) : List String → Except Failure String
  | [] => .error (.isDirectory path.toString)
  | step :: rest =>
    if step = ".." then
      if here = [] then readOutside path rest else walk folder path here.dropLast rest
    else if !Path.isStep step then .error (.nameTooLong path.toString)
    else
      match folder.item (here ++ [step]) with
      | .file text =>
        if rest = [] then .ok text else .error (.notADirectory path.toString)
      | .folder => walk folder path (here ++ [step]) rest
      | .nothing => .error (.fileNotFound path.toString)

/-- The text of the file with a name. -/
def read (folder : Folder) (name : String) : Except Failure String :=
  let path := Path.ofString name
  if name.toList.contains '\x00' then .error .nullInPath
  else if !path.isName then .error (.nameTooLong path.toString)
  else if path.root = "" then folder.walk path [] path.steps
  else readOutside path path.steps

end Folder

end Command

end MarkupTree
