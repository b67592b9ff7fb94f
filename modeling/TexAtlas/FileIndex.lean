/-
The name index: every known file under its name, in the order of arrival. The first
file that arrives under a name keeps it.
-/

import TexAtlas.File.Basic

namespace TexAtlas

/-- Files in order of arrival, no two of one name. -/
structure FileIndex where
  files : List File
  distinct : (files.map File.name).Nodup

namespace FileIndex

def empty : FileIndex :=
  { files := [], distinct := List.nodup_nil }

def lookup (index : FileIndex) (name : String) : Option File :=
  index.files.find? (fun file => file.name == name)

def contains (index : FileIndex) (name : String) : Bool :=
  (index.files.map File.name).contains name

/-- Add a file unless its name is taken. -/
def insert (index : FileIndex) (file : File) : FileIndex :=
  if taken : file.name ∈ index.files.map File.name then index
  else
    { files := index.files ++ [file]
      distinct := by
        rw [List.map_append, List.nodup_append]
        refine ⟨index.distinct, by simp, ?_⟩
        intro left present right single same
        rw [List.map_cons, List.map_nil, List.mem_singleton] at single
        exact taken (single ▸ same ▸ present) }

def ofList (files : List File) : FileIndex :=
  files.foldl insert empty

def size (index : FileIndex) : Nat :=
  index.files.length

/-- The files of the given roles, in index order. -/
def ofRoles (index : FileIndex) (roles : List Role) : List File :=
  index.files.filter (fun file => roles.contains file.role)

/-- The indexed file of a name, or the bare name where the index has none. -/
def resolve (index : FileIndex) (name : String) : File :=
  (index.lookup name).getD (File.unindexed name)

end FileIndex

end TexAtlas
