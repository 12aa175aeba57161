/-! Paths as texts: the directory a path is in, its name and its extension. -/

namespace TenantRelay.Disk

def dropEnd : List Char → List Char
  | '/' :: rest => dropEnd rest
  | '.' :: '/' :: rest => dropEnd ('/' :: rest)
  | cs => cs
termination_by cs => cs.length

def dropFront : List Char → List Char
  | '/' :: rest => dropFront rest
  | '.' :: '/' :: rest => dropFront rest
  | ['.'] => []
  | cs => cs

def split (path : String) : List Char × List Char :=
  let backwards := dropEnd path.toList.reverse
  ((backwards.dropWhile (· != '/')).reverse, (backwards.takeWhile (· != '/')).reverse)

def parent? (path : String) : Option String :=
  match split path with
  | (_, []) => none
  | (front, _) =>
    let inside := (dropEnd front.reverse).reverse
    some (String.ofList (if inside.isEmpty && !front.isEmpty then ['/'] else inside))

/-- The place of the last dot in a name; one in front begins a hidden name. -/
def stem (name : List Char) : List Char :=
  match name.reverse.dropWhile (· != '.') with
  | [] => name
  | [_] => name
  | _ :: before => before.reverse

def extension? (path : String) : Option String :=
  match split path with
  | (_, []) => none
  | (_, ['.', '.']) => none
  | (_, name) =>
    if stem name = name then none else some (String.ofList (name.drop ((stem name).length + 1)))

def withExtension (path extension : String) : String :=
  match split path with
  | (_, []) => path
  | (_, ['.']) => path
  | (_, ['.', '.']) => path
  | (front, name) => String.ofList (front ++ stem name ++ ['.']) ++ extension

/-- A tilde as the first part of a path stands for the home directory. -/
def expandHome (home path : String) : String :=
  match path.toList with
  | ['~'] => home ++ "/"
  | '~' :: '/' :: rest =>
    let rest := (dropEnd (dropFront rest).reverse).reverse
    home ++ "/" ++ String.ofList rest
  | _ => path

end TenantRelay.Disk
