import ChatRelay.Store.Document

/-!
# Key-value stores

- `Store`: entries in memory, or one JSON object in a file that is read anew at every call;
- `Store.get`, `Store.update`: the value of a key, null when there is none, and a key given a value. Null removes the
  key, and removing a key that is absent writes nothing;
- `Store.delete`: the removal of a key, which a file store carries out as an update.
-/

namespace ChatRelay

/-- Where values are kept under keys. -/
inductive Store
  | memory (entries : List (String × Json))
  | file (path : Path)

/-- A store together with the disk that it may lie on. -/
structure Storage where
  store : Store
  disk : Disk

namespace Storage

variable [Host]

/-- The entries in the file of a store. Contents that are no object count as none. -/
def loadEntries (d : Disk) (p : Path) : Except Fault (List (String × Json)) × List Notice :=
  match Document.load d p with
  | (.ok (.obj members), notices) => (.ok members, notices)
  | (.ok _, notices) => (.ok [], notices ++ [.storeNotObject p.toString])
  | (.error e, notices) => (.error e, notices)

/-- The value of a key, null when there is none. -/
def get (s : Storage) (key : String) : Except Fault Json × List Notice :=
  match s.store with
  | .memory entries => (.ok ((Assoc.get? key entries).getD .null), [])
  | .file p =>
    match loadEntries s.disk p with
    | (.ok entries, notices) => (.ok ((Assoc.get? key entries).getD .null), notices)
    | (.error e, notices) => (.error e, notices)

/-- The entries after a key was given a value, if that changes anything: null removes a key that is present. -/
def edit (key : String) (value : Json) (entries : List (String × Json)) : Option (List (String × Json)) :=
  if value.isNull then if Assoc.contains key entries then some (Assoc.erase key entries) else none
  else some (Assoc.put key value entries)

/-- Gives a key a value. -/
def update (s : Storage) (key : String) (value : Json) : Except Fault Unit × Storage × List Notice :=
  match s.store with
  | .memory entries => (.ok (), { s with store := .memory ((edit key value entries).getD entries) }, [])
  | .file p =>
    match loadEntries s.disk p with
    | (.error e, notices) => (.error e, s, notices)
    | (.ok entries, notices) =>
      match edit key value entries with
      | none => (.ok (), s, notices)
      | some entries =>
        let r := Document.save s.disk p (.obj entries) false
        (r.1, { s with disk := r.2 }, notices)

/-- Whether removing a key is itself an update of the store. -/
def deletesByUpdate (s : Storage) : Bool :=
  match s.store with
  | .memory _ => false
  | .file _ => true

/-- Removes a key. -/
def delete (s : Storage) (key : String) : Except Fault Unit × Storage × List Notice := s.update key .null

end Storage

end ChatRelay
