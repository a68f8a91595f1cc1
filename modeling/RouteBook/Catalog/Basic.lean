import RouteBook.Catalog.Endpoint
import RouteBook.Fault
import RouteBook.Files.Path
import RouteBook.Journal
/-!
# The catalog of endpoints

* `SourceFile`: a file and its items.
* `endpoints`, `typeNames`: what items declare, inside modules too, but not inside blocks.
* `Catalog`: the endpoints and types of some files.
* `Catalog.resolve`: the one endpoint that an identifier names.
-/

namespace RouteBook

/-- A source file that has been read. -/
structure SourceFile where
  path : String
  items : List Source.Item

/-- A type that methods can belong to, with the modules it stands in. -/
structure TypeName where
  modules : List String
  name : String
  deriving DecidableEq, Repr

namespace Source

mutual

/-- The endpoints that an item declares in some modules. -/
def Item.endpoints (file : String) (modules : List String) : Item → List Endpoint
  | .function signature _ => [.ofSignature file modules none signature]
  | .implementation target methods _ =>
    match target.owner? with
    | some owner => methods.map (.ofSignature file modules (some owner))
    | none => []
  | .module name content => endpoints file (modules ++ [name]) content
  | .typeDecl _ _ => []
  | .other _ => []

/-- The endpoints that items declare in some modules, in order. -/
def endpoints (file : String) (modules : List String) : List Item → List Endpoint
  | [] => []
  | item :: rest => item.endpoints file modules ++ endpoints file modules rest

end

mutual

/-- The types that an item declares in some modules. -/
def Item.typeNames (modules : List String) : Item → List TypeName
  | .typeDecl name _ => [⟨modules, name⟩]
  | .implementation target _ _ => (target.owner?.map (TypeName.mk modules)).toList
  | .module name content => typeNames (modules ++ [name]) content
  | .function _ _ => []
  | .other _ => []

/-- The types that items declare in some modules, in order. -/
def typeNames (modules : List String) : List Item → List TypeName
  | [] => []
  | item :: rest => item.typeNames modules ++ typeNames modules rest

end

end Source

/--
The modules that a file stands for: its directories below the root and its own name, unless that
is the usual name of the file of a whole directory.
-/
def fileModules (root : Option String) (path : String) : List String :=
  let modules := (Path.stems (Path.belowRoot root path)).filter Path.isName
  match modules.getLast? with
  | some last => if ["mod", "lib", "main"].contains last then modules.dropLast else modules
  | none => modules

/-- The endpoints and types of some files. -/
structure Catalog where
  endpoints : List Endpoint
  types : List TypeName

namespace Catalog

/-- The elements of a list, each where it first stands. -/
def firsts {α : Type} [BEq α] (as : List α) : List α :=
  (as.foldl (fun kept a => if kept.contains a then kept else a :: kept) []).reverse

/-- The catalog of some files; with a root, their modules start below it. -/
def ofFiles (root : Option String) (files : List SourceFile) : Catalog where
  endpoints := files.flatMap fun f => Source.endpoints f.path (fileModules root f.path) f.items
  types := firsts (files.flatMap fun f => Source.typeNames (fileModules root f.path) f.items)

/-- What the journal says of a new catalog. -/
def builtEntry (c : Catalog) : Entry :=
  ⟨.debug, "Indexed " ++ toString c.endpoints.length ++ " handlers across " ++
    toString c.types.length ++ " types"⟩

/-- The steps of an identifier; the word for the root of the sources adds nothing. -/
def steps (path : List Char) : List String :=
  match (Text.piecesBy ':' ':' path).map fun s => String.ofList (Text.trim s) with
  | "crate" :: rest => rest
  | found => found

/-- A list without its last element, and that element. -/
def splitLast? {α : Type} (as : List α) : Option (List α × α) :=
  as.getLast?.map fun last => (as.dropLast, last)

/-- The endpoints with this owner and name in modules that end with `modules`. -/
def named (c : Catalog) (modules : List String) (owner : Option String) (name : String) :
    List Endpoint :=
  c.endpoints.filter fun e => e.owner = owner ∧ e.name = name ∧ modules <:+ e.modules

/-- Whether a type of this name is declared in modules that end with `modules`. -/
def declares (c : Catalog) (modules : List String) (name : String) : Bool :=
  c.types.any fun t => t.name = name ∧ modules <:+ t.modules

/-- The endpoints that an identifier names, or why it cannot name any. -/
def candidates (c : Catalog) (identifier : String) : Except String (List Endpoint) :=
  match Text.cutAt '@' identifier.toList with
  | (owner, some method) =>
    match splitLast? (steps owner) with
    | none => .error "missing type name"
    | some (modules, type) =>
      if !c.declares modules type then
        .error ("type \x60" ++ String.ofList owner ++ "\x60 is not declared in the indexed sources")
      else
        let method := String.ofList (Text.trim method)
        match c.named modules (some type) method with
        | [] => .error ("\x60" ++ type ++ "\x60 has no method \x60" ++ method ++ "\x60")
        | found => .ok found
  | (path, none) =>
    match splitLast? (steps path) with
    | none => .error "missing function name"
    | some (modules, name) => .ok (c.named modules none name)

/-- The one endpoint that an identifier names. -/
def resolve (c : Catalog) (identifier : String) : Except Fault Endpoint :=
  let unresolved := Except.error ∘ Fault.unresolvedHandler identifier
  match c.candidates identifier with
  | .error reason => unresolved reason
  | .ok [e] => .ok e
  | .ok [] => unresolved "no function with this name in the indexed sources"
  | .ok found =>
    unresolved ("ambiguous, matches " ++ Text.joined ", " (found.map Endpoint.qualifiedName) ++
      "; qualify it with its module path")

end Catalog
end RouteBook
