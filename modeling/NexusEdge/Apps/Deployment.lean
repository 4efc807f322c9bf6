import NexusEdge.Platform.FileSystem

/-!
# Storage and start of applications

Library `Apps`. The parts of `app-manager/deployment-utils.js` that place an application in
the file system and start it. `dirname` is the directory of the source files.
-/

namespace NexusEdge.Apps
open NexusEdge.Base NexusEdge.Platform

variable (dirname : Path)

/-- `executableDirPath`, `deployment-utils.js:7`. -/
def executableDirPath : Path := dirname.join "executables"

/-- The directory of an application stored at a clock reading, `deployment-utils.js:24–25`. -/
def targetDirectoryPath (now : Nat) : Path := (executableDirPath dirname).join (toString now)

/-- `storeApp`, `deployment-utils.js:19–39`: the returned directory and the effect. -/
def storeApp (now : Nat) (tempAppPath tempMetadataPath : Path) (files : FileSystem) :
    Path × Outcome String FileSystem :=
  let directory := targetDirectoryPath dirname now
  let appTargetPath := directory.join tempAppPath.basename
  let metadataTargetPath := directory.join tempMetadataPath.basename
  (directory, (files.copySync tempAppPath appTargetPath).andThen fun files ↦
    files.copySync tempMetadataPath metadataTargetPath)

/-- Storing an application writes into its directory only. -/
theorem storeApp_changesWithin (now : Nat) (tempAppPath tempMetadataPath : Path)
    (files : FileSystem) :
    FileSystem.ChangesWithin [targetDirectoryPath dirname now] files
      (storeApp dirname now tempAppPath tempMetadataPath files).2.state := by
  have hmem : targetDirectoryPath dirname now ∈ [targetDirectoryPath dirname now] :=
    List.mem_singleton_self _
  have hfirst := FileSystem.ChangesWithin.copySync hmem
    (List.prefix_append _ [tempAppPath.basename]) files tempAppPath
  simp only [storeApp]
  by_cases herror : (files.copySync tempAppPath
      ((targetDirectoryPath dirname now).join tempAppPath.basename)).error = none
  · rw [Outcome.andThen_of_none herror]
    exact hfirst.trans (FileSystem.ChangesWithin.copySync hmem
      (List.prefix_append _ [tempMetadataPath.basename]) _ tempMetadataPath)
  · rw [Outcome.andThen_of_ne_none herror]
    exact hfirst

/-- `deleteApp`, `deployment-utils.js:45–58`; a directory that does not exist is left alone. -/
def deleteApp (appDirectoryPath : Path) (files : FileSystem) : FileSystem :=
  files.remove appDirectoryPath

/-- The library of a runtime, `deployment-utils.js:65–71`. -/
def oracleDirname : String → Option String
  | "nodejs" => some "oracle"
  | "python" => some "oracle-python"
  | _ => none

/-- `copyOracleLibrary`, `deployment-utils.js:60–83`, into an existing directory. -/
def copyOracleLibrary (targetPath : Path) (runtime : String) (files : FileSystem) : FileSystem :=
  match oracleDirname runtime with
  | some oracle => files.copyDirSync (dirname.join oracle) (targetPath.join "oracle")
  | none => files

/-- The library is copied into the directory. -/
theorem copyOracleLibrary_changesWithin (targetPath : Path) (runtime : String)
    (files : FileSystem) :
    FileSystem.ChangesWithin [targetPath] files
      (copyOracleLibrary dirname targetPath runtime files) := by
  unfold copyOracleLibrary
  split
  · exact FileSystem.ChangesWithin.copyDirSync (List.mem_singleton_self _)
      (List.prefix_append _ ["oracle"]) files _
  · exact FileSystem.ChangesWithin.refl _ files

/-- A started process; `appDataTopic` is in its environment. -/
structure ChildProcess where
  appDataTopic : String
  executablePath : Path
  logPath : Path
  runtime : String
  deriving DecidableEq

/-- The files and the processes of a gateway; a process is its position in the list. -/
structure Machine where
  files : FileSystem
  processes : List ChildProcess
  killed : List Nat

/-- The runtimes `executeApplication` knows. -/
def SupportedRuntime (runtime : String) : Prop := runtime = "nodejs" ∨ runtime = "python"

instance : DecidablePred SupportedRuntime := fun runtime ↦
  inferInstanceAs (Decidable (runtime = "nodejs" ∨ runtime = "python"))

/-- `executeApplication`, `deployment-utils.js:239–270`: the log is opened with flag `w`. -/
def Machine.executeApplication (m : Machine) (id : String) (executablePath logPath : Path)
    (runtime : String) : Except String (Nat × Machine) :=
  if SupportedRuntime runtime then
    .ok (m.processes.length, { m with
      files := m.files.write logPath ""
      processes := m.processes ++ [⟨id, executablePath, logPath, runtime⟩] })
  else .error ("Unsupported runtime: '" ++ runtime ++ "'.")

end NexusEdge.Apps
