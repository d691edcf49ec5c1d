import LayerScript.Store

/-!
# The prelude

The scope that every script runs in: `len`, `type_of`, `fail`, the console and the standard
modules, none of which can be reassigned.
-/

namespace LayerScript

namespace Store

def allocNatives (s : Store) : List Native → List (String × Ref) × Store
  | [] => ([], s)
  | f :: fs =>
    let (r, s) := s.alloc (.native f)
    let (rest, s) := s.allocNatives fs
    ((f.name, r) :: rest, s)

/-- A standard module of some values made before and of new native functions. -/
def allocModule (s : Store) (path : List String) (shared : List (String × Ref))
    (natives : List Native) : Ref × Store :=
  let (exports, s) := s.allocNatives natives
  s.alloc (.module path (.ofList (shared ++ exports)))

end Store

def textNatives : List Native :=
  [Plain.isEmpty, .toUpper, .toLower, .trim, .split, .replace, .startsWith, .endsWith, .contains,
    .join, .toText].map .plain

def collectionNatives : List Native :=
  [Plain.push, .pop, .unshift, .insert, .remove, .get, .has, .keys, .values, .range, .rangeStep,
    .concat, .slice].map .plain ++
  [Traversal.map, .filter, .reduce, .find, .sortBy].map .traversal

def mathNatives : List Native :=
  [Plain.abs, .floor, .ceil, .sqrt, .round, .pow, .min, .max].map .plain

def documentNatives : List Native :=
  [Plain.stringify, .parse].map .plain

/-- Makes a new prelude scope. The function `len` is one value in all its places. -/
def Store.newPrelude (s : Store) : ScopeId × Store :=
  let (len, s) := s.alloc (.native (.plain .len))
  let (console, s) := s.allocModule ["console"] [] (Level.all.map .console)
  let (text, s) := s.allocModule ["std", "string"] [("len", len)] textNatives
  let (collections, s) := s.allocModule ["std", "collections"] [("len", len)] collectionNatives
  let (math, s) := s.allocModule ["std", "math"] [] mathNatives
  let (json, s) := s.allocModule ["std", "json"] [] documentNatives
  let (std, s) := s.alloc (.module ["std"] (.ofList
    [("string", text), ("collections", collections), ("math", math), ("json", json)]))
  let (typeOf, s) := s.alloc (.native (.plain .typeOf))
  let (fail, s) := s.alloc (.native (.plain .fail))
  let (scope, s) := s.newScope none
  let s := s.declare scope "len" len false
  let s := s.declare scope "type_of" typeOf false
  let s := s.declare scope "fail" fail false
  let s := s.declare scope "console" console false
  (scope, s.declare scope "std" std false)

end LayerScript
