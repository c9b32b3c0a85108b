/-!
# Generation settings

The names and fixed texts that the generated code is built from.  The defaults
are those that the hand-written side of the runtime expects.
-/

namespace CommandProtocol

def defaultLicenseHeader : String :=
  "\n".intercalate
    [ "/*",
      " * Licensed under the Apache License, Version 2.0 (the \"License\");",
      " * you may not use this file except in compliance with the License.",
      " * You may obtain a copy of the License at",
      " *",
      " *      http://www.apache.org/licenses/LICENSE-2.0",
      " *",
      " * Unless required by applicable law or agreed to in writing, software",
      " * distributed under the License is distributed on an \"AS IS\" BASIS,",
      " * WITHOUT WARRANTIES OR CONDITIONS OF ANY KIND, either express or implied.",
      " * See the License for the specific language governing permissions and",
      " * limitations under the License.",
      " *",
      " * This file is generated by rsg. Do not edit.",
      " */",
      "",
      "" ]

structure Settings where
  /-- Data of fewer bytes than this travels inside the command buffer. -/
  inlineThreshold : UInt32 := 1024
  clientPrefix : String := "rs"
  implPrefix : String := "rsi_"
  playbackPrefix : String := "rsp_"
  handcodePrefix : String := "rsHCAPI_"
  recordPrefix : String := "RS_CMD_"
  dispatchTable : String := "gPlaybackFuncs"
  namespaces : List String := ["android", "renderscript"]
  sourceIncludes : List String :=
    ["rsDevice.h", "rsContext.h", "rsThreadIO.h", "rsgApiFuncDecl.h"]
  handcodeInclude : String := "rsHandcode.h"
  licenseHeader : String := defaultLicenseHeader
  deriving DecidableEq, Repr

namespace Settings

def recordName (settings : Settings) (call : String) : String :=
  settings.recordPrefix ++ call

def commandIdName (settings : Settings) (call : String) : String :=
  settings.recordPrefix ++ "ID_" ++ call

end Settings

end CommandProtocol
