import DeviceOnboard.Config.Error
import DeviceOnboard.Dictionary
import DeviceOnboard.Text.Blank

/-!
# Files for devices

A configuration map can hold a file that is put on devices when they are onboarded. Its
annotations name the key of the file, its path on the device and its permissions.
-/
namespace DeviceOnboard.Config

/-- A file from a configuration map: its path on the device, and where it lies in the container
of the server for service information. -/
structure DeviceFile where
  configMap : String
  path : String
  permissions : Option String
  sourcePath : String
  deriving DecidableEq, Repr

namespace DeviceFile

def nameAnnotation : String := "fdo.serviceinfo.file/name"

def pathAnnotation : String := "fdo.serviceinfo.file/path"

def permissionsAnnotation : String := "fdo.serviceinfo.file/permissions"

/-- The directory below which every configuration map with a file has a directory of its own. -/
def filesDirectory : String := "/etc/fdo/files"

/-- The directory that a configuration map is mounted into. -/
def mountPathOf (configMap : String) : String := filesDirectory ++ "/" ++ configMap

/-- The file that a configuration map holds, from its annotations and the keys of its data. -/
def ofConfigMap (configMap : String) (annotations : Dictionary String) (keys : List String) :
    Except Error DeviceFile :=
  match Text.field? (annotations.find? nameAnnotation),
    Text.field? (annotations.find? pathAnnotation) with
  | some file, some path =>
    if keys.contains file then
      .ok ⟨configMap, path, Text.field? (annotations.find? permissionsAnnotation),
        mountPathOf configMap ++ "/" ++ file⟩
    else .error (.missingFileData configMap file)
  | _, _ => .error (.incompleteFile configMap)

def mountPath (f : DeviceFile) : String := mountPathOf f.configMap

/-- Files in the order of their configuration maps, so that what is generated from them does not
depend on the order in which they are listed. -/
def sort (files : List DeviceFile) : List DeviceFile :=
  files.mergeSort fun f g => decide (f.configMap ≤ g.configMap)

end DeviceFile

end DeviceOnboard.Config
