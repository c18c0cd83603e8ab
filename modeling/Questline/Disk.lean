import Questline.Fault
import Questline.Path
import Questline.Text.Utf8

/-! A file system as a value. Places are given by the names on the way from the root. -/
namespace Questline

inductive Entry where
  | file (content : List UInt8)
  | directory

structure Disk where
  /-- The working directory, from which relative paths lead. It exists. -/
  home : List String := ["home"]
  /-- The files and directories, by the names on the way to them. -/
  entries : List (List String × Entry) := []

namespace Disk

def entry? (d : Disk) (names : List String) : Option Entry :=
  if names.isPrefixOf d.home then some .directory
  else (d.entries.find? fun e => e.1 = names).map (·.2)

/-- One part of a path further from a place. Nothing is above the root. -/
def follow (place : List String) : PathPart → List String
  | .root => []
  | .here => place
  | .up => place.dropLast
  | .normal name => place ++ [name]

/-- The place that parts lead to, each of which leads on from a directory. -/
def walk (d : Disk) (place : List String) : List PathPart → Except DiskError Entry
  | [] => (d.entry? place).elim (.error .missing) .ok
  | part :: rest =>
    match d.entry? place with
    | none => .error .missing
    | some (.file _) => .error .notDirectory
    | some .directory => d.walk (follow place part) rest

/-- A slash or a dot at the end of a path asks for a directory. -/
def asksDirectory (p : Path) : Bool := p.hasEndingSlash || p.pieces.getLast? = some "."

/-- The parts of a path as the file system follows them. -/
def steps (p : Path) : List PathPart := p.parts ++ if asksDirectory p then [.here] else []

def lookup (d : Disk) (p : Path) : Except DiskError Entry :=
  if p.text.isEmpty then .error .missing else d.walk d.home (steps p)

def exists? (d : Disk) (p : Path) : Bool := (d.lookup p).toOption.isSome

def isFile (d : Disk) (p : Path) : Bool :=
  match d.lookup p with
  | .ok (.file _) => true
  | _ => false

def read (d : Disk) (p : Path) : Except DiskError (List UInt8) :=
  match d.lookup p with
  | .ok (.file content) => .ok content
  | .ok .directory => .error .isDirectory
  | .error e => .error e

def readText (d : Disk) (p : Path) : Except DiskError String :=
  match d.read p with
  | .ok content => (Text.Utf8.decode? content).elim (.error .notText) .ok
  | .error e => .error e

/-- Puts an entry at a place, in place of what was there. -/
def set (d : Disk) (names : List String) (entry : Entry) : Disk :=
  { d with entries := d.entries.filter (fun e => e.1 ≠ names) ++ [(names, entry)] }

/-- Follows parts from a place and makes the directories that are missing on the way, where no file
may stand. Gives the place they lead to. -/
def makeWay (d : Disk) (place : List String) :
    List PathPart → Except DiskError (Disk × List String)
  | [] => .ok (d, place)
  | part :: rest =>
    match d.entry? (follow place part) with
    | some .directory => d.makeWay (follow place part) rest
    | some (.file _) => .error .notDirectory
    | none => (d.set (follow place part) .directory).makeWay (follow place part) rest

def makeDirectories (d : Disk) (names : List String) : Except DiskError Disk :=
  (d.makeWay [] (names.map .normal)).map (·.1)

/-- The place that a path names, whether it exists or not. -/
def place (d : Disk) (p : Path) : List String := p.parts.foldl follow d.home

/-- Writes a file at a place where no directory stands. -/
def writeAt (d : Disk) (names : List String) (content : List UInt8) : Except DiskError Disk :=
  match d.entry? names with
  | some .directory => .error .isDirectory
  | _ => .ok (d.set names (.file content))

/-- Writes a file, after making the directories on the way to it. -/
def write (d : Disk) (p : Path) (content : List UInt8) : Except DiskError Disk :=
  match p.fileName? with
  | none => .error .isDirectory
  | some name =>
    if asksDirectory p then .error .isDirectory
    else do
      let (d, place) ← d.makeWay d.home p.parts.dropLast
      d.writeAt (place ++ [name]) content

/-- The files below a place, by the names on the way to them from there. -/
def filesBelow (d : Disk) (names : List String) : List (List String) :=
  d.entries.filterMap fun
    | (way, .file _) =>
      if names.isPrefixOf way && names.length < way.length then some (way.drop names.length)
      else none
    | (_, .directory) => none

/-- Adds a file or, where the path ends in a slash, a directory. What stands in the way stays. -/
def add (d : Disk) (p : Path) (content : List UInt8) : Disk :=
  let names := d.place p
  match d.makeDirectories (if p.hasEndingSlash then names else names.dropLast) with
  | .ok d => if p.hasEndingSlash then d else d.set names (.file content)
  | .error _ => d

def ofFiles (files : List (String × List UInt8)) : Disk :=
  files.foldl (fun d (path, content) => d.add ⟨path⟩ content) {}

end Disk

end Questline
