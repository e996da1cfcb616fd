/-
  DropFlow/Program/Loading.lean
  =============================
  Programs from files: every file is read, decoded and added in order, and the first
  failure ends the loading.
-/
import DropFlow.Files
import DropFlow.Program
import DropFlow.Source.Document

namespace DropFlow.Program

open DropFlow.Text DropFlow.Yaml

inductive LoadError where
  | noFiles
  | unreadable (e : FileError)
  | undecodable (path : String) (e : DecodeError)
  | refused (path : String) (e : AddError)
  deriving DecidableEq, Repr

/-- The wording of a decoding error. -/
def decodeMessage (e : DecodeError) : String := "could not decode IR: " ++ e.message

def LoadError.message : LoadError → String
  | .noFiles => "no IR file to load"
  | .unreadable e => "could not read IR file: " ++ e.message
  | .undecodable path e => path ++ ": " ++ decodeMessage e
  | .refused path e => path ++ ": " ++ e.message

/-- Loads files into a program, one after the other. -/
def loadInto (yaml : Library) (files : Files) (p : Program) :
    List String → Except LoadError Program × List Notice
  | [] => (.ok p, [])
  | path :: rest =>
    match files.read path with
    | .error e => (.error (.unreadable e), [])
    | .ok text =>
      match Source.File.decode text yaml with
      | .error e => (.error (.undecodable path e), [])
      | .ok f =>
        match p.addFile f with
        | (_, some e) => (.error (.refused path e), [])
        | (p, none) =>
          let notice := Notice.debug fun _ =>
            "Loaded " ++ decimal f.functions.length ++ " functions from " ++ path ++ "\n"
          let (result, notices) := loadInto yaml files p rest
          (result, notice :: notices)

def load (files : Files) (paths : List String) (yaml : Library := Library.own) :
    Except LoadError Program × List Notice :=
  if paths.isEmpty then (.error .noFiles, []) else loadInto yaml files {} paths

end DropFlow.Program
