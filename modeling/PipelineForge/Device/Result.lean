/-!
# Result codes

A call to a device ends with a result code. The common codes are written as sentences, the other
known ones by their names, and unknown ones as numbers.
-/

namespace PipelineForge

def resultSentence? : Int → Option String
  | 0 => some "Command completed successfully"
  | 1 => some "A fence or query has not yet completed"
  | 2 => some "A wait operation has not completed in the specified time"
  | 3 => some "An event is signaled"
  | 4 => some "An event is unsignaled"
  | 5 => some "A return array was too small for the result"
  | -1 => some "A host memory allocation has failed"
  | -2 => some "A device memory allocation has failed"
  | -3 => some "Initialization of an object has failed"
  | -4 => some <|
    "The logical device has been lost. See " ++
      "<https://registry.khronos.org/vulkan/specs/1.3-extensions/html/vkspec.html" ++
      "#devsandqueues-lost-device>"
  | -5 => some "Mapping of a memory object has failed"
  | -6 => some "Layer specified does not exist"
  | -7 => some "Extension specified does not exist"
  | -8 => some "Requested feature is not available on this device"
  | -9 => some "Unable to find a Vulkan driver"
  | -10 => some "Too many objects of the type have already been created"
  | -11 => some "Requested format is not supported on this device"
  | -12 => some "A requested pool allocation has failed due to fragmentation of the pool's memory"
  | -13 => some "An unknown error has occurred, due to an implementation or application bug"
  | _ => none

def resultNames : List (Int × String) :=
  [(-1000069000, "ERROR_OUT_OF_POOL_MEMORY"),
    (-1000072003, "ERROR_INVALID_EXTERNAL_HANDLE"),
    (-1000161000, "ERROR_FRAGMENTATION"),
    (-1000257000, "ERROR_INVALID_OPAQUE_CAPTURE_ADDRESS"),
    (1000297000, "PIPELINE_COMPILE_REQUIRED"),
    (-1000000000, "ERROR_SURFACE_LOST_KHR"),
    (-1000000001, "ERROR_NATIVE_WINDOW_IN_USE_KHR"),
    (1000001003, "SUBOPTIMAL_KHR"),
    (-1000001004, "ERROR_OUT_OF_DATE_KHR"),
    (-1000003001, "ERROR_INCOMPATIBLE_DISPLAY_KHR"),
    (-1000011001, "ERROR_VALIDATION_FAILED_EXT"),
    (-1000012000, "ERROR_INVALID_SHADER_NV"),
    (-1000023000, "ERROR_IMAGE_USAGE_NOT_SUPPORTED_KHR"),
    (-1000023001, "ERROR_VIDEO_PICTURE_LAYOUT_NOT_SUPPORTED_KHR"),
    (-1000023002, "ERROR_VIDEO_PROFILE_OPERATION_NOT_SUPPORTED_KHR"),
    (-1000023003, "ERROR_VIDEO_PROFILE_FORMAT_NOT_SUPPORTED_KHR"),
    (-1000023004, "ERROR_VIDEO_PROFILE_CODEC_NOT_SUPPORTED_KHR"),
    (-1000023005, "ERROR_VIDEO_STD_VERSION_NOT_SUPPORTED_KHR"),
    (-1000158000, "ERROR_INVALID_DRM_FORMAT_MODIFIER_PLANE_LAYOUT_EXT"),
    (-1000174001, "ERROR_NOT_PERMITTED_KHR"),
    (-1000255000, "ERROR_FULL_SCREEN_EXCLUSIVE_MODE_LOST_EXT"),
    (1000268000, "THREAD_IDLE_KHR"),
    (1000268001, "THREAD_DONE_KHR"),
    (1000268002, "OPERATION_DEFERRED_KHR"),
    (1000268003, "OPERATION_NOT_DEFERRED_KHR"),
    (-1000299000, "ERROR_INVALID_VIDEO_STD_PARAMETERS_KHR"),
    (-1000338000, "ERROR_COMPRESSION_EXHAUSTED_EXT"),
    (1000482000, "INCOMPATIBLE_SHADER_BINARY_EXT")]

def resultText (code : Int32) : String :=
  (resultSentence? code.toInt).or (resultNames.lookup code.toInt) |>.getD (toString code.toInt)

end PipelineForge
