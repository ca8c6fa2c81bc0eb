/-!
# Errors

One type per part of the program that can fail, each with the causes of failure as constructors
and one `message` that words them, and `Fault`, which says in which part a failure arose.
-/

set_option autoImplicit false

namespace AquariumControl

/-- Why a sensor gave no reading. -/
inductive SensorError
  | adcReadFailed
  | gpioReadFailed
  | probeNoResponse
  | outOfRange
deriving DecidableEq

/-- Why an actuator did not follow a command. -/
inductive ActuatorError
  | pwmWriteFailed
  | gpioWriteFailed
  | pwmUnsupported
deriving DecidableEq

/-- Why a registry refused an operation. -/
inductive RegistryError
  | full
  | notFound
deriving DecidableEq

/-- Why a record could not be written or read: there are too few bytes, or the bytes describe
nothing that exists. -/
inductive CodecError
  | bufferTooSmall
  | invalid
deriving DecidableEq

/-- Why the storage did not carry out an operation. -/
inductive StorageError
  | notFound
  | full
  | ioError
  | bufferTooSmall
deriving DecidableEq

/-- Why a file on a card could not be used. -/
inductive FileError
  /-- There is nothing at the path, or a directory on the way to it is missing. -/
  | absent
  /-- A directory was to be made where there is a file. -/
  | alreadyThere
  /-- The path goes through a file. -/
  | notDirectory
  /-- There is a directory at the path. -/
  | isDirectory
  /-- The path or one of its names is too long. -/
  | nameTooLong
  /-- The path is no text that a file can be named by. -/
  | containsNul
deriving DecidableEq

/-- Why there is no system configuration, or why one was not accepted. -/
inductive ConfigError
  | notFound
  | corrupted
  | validationFailed (reason : String)
  | ioError
deriving DecidableEq

/-- Why the uplink did not take a batch of samples. -/
inductive TelemetryError
  | offline
  | rejected
deriving DecidableEq

/-- Why the converter could not be started: the code that the hardware gave. -/
structure ConverterError where
  code : Int
deriving DecidableEq

/-- A failure together with the part of the program it arose in. -/
inductive Fault
  | sensor (e : SensorError)
  | actuator (e : ActuatorError)
  | registry (e : RegistryError)
  | codec (e : CodecError)
  | storage (e : StorageError)
  | config (e : ConfigError)
deriving DecidableEq

def SensorError.message : SensorError → String
  | .adcReadFailed => "ADC read failed"
  | .gpioReadFailed => "GPIO read failed"
  | .probeNoResponse => "probe did not respond"
  | .outOfRange => "reading out of range"

def ActuatorError.message : ActuatorError → String
  | .pwmWriteFailed => "PWM write failed"
  | .gpioWriteFailed => "GPIO write failed"
  | .pwmUnsupported => "PWM not supported"

def RegistryError.message : RegistryError → String
  | .full => "capacity exhausted"
  | .notFound => "no such slot"

def CodecError.message : CodecError → String
  | .bufferTooSmall => "buffer too small"
  | .invalid => "invalid record"

def StorageError.message : StorageError → String
  | .notFound => "key not found"
  | .full => "storage full"
  | .ioError => "I/O error"
  | .bufferTooSmall => "value larger than buffer"

def FileError.message : FileError → String
  | .absent => "No such file or directory (os error 2)"
  | .alreadyThere => "File exists (os error 17)"
  | .notDirectory => "Not a directory (os error 20)"
  | .isDirectory => "Is a directory (os error 21)"
  | .nameTooLong => "File name too long (os error 36)"
  | .containsNul => "file name contained an unexpected NUL byte"

/-- What a failure with a file is for those who only know keys and values. -/
def FileError.storageError : FileError → StorageError
  | .absent => .notFound
  | .alreadyThere | .notDirectory | .isDirectory | .nameTooLong | .containsNul => .ioError

def ConfigError.message : ConfigError → String
  | .notFound => "config not found"
  | .corrupted => "config corrupted"
  | .validationFailed reason => "validation failed: " ++ reason
  | .ioError => "I/O error"

def TelemetryError.message : TelemetryError → String
  | .offline => "uplink offline"
  | .rejected => "batch rejected"

def ConverterError.message (e : ConverterError) : String :=
  s!"ADC1 init failed (rc={e.code})"

/-- The failing part, a colon, and the part's own message. -/
def Fault.message : Fault → String
  | .sensor e => "sensor: " ++ e.message
  | .actuator e => "actuator: " ++ e.message
  | .registry e => "registry: " ++ e.message
  | .codec e => "codec: " ++ e.message
  | .storage e => "storage: " ++ e.message
  | .config e => "config: " ++ e.message

end AquariumControl
