import TensorKit.Convert.Archived

/-! # The package -/
namespace TensorKit.Package
def listed (xs : Strings) : Json := .arr (xs.map .str)
def below (name : String) (parts : Strings) : Strings := parts.map ((name ++ ".") ++ ·)
def name : String := "tensorflowjs"
def operations : String := name ++ "/op_list"
def topics : Strings :=
  ["Development Status :: 3 - Alpha"] ++
  ["Developers","Education","Science/Research"].map ("Intended Audience :: " ++ ·) ++
  ["License :: OSI Approved :: Apache Software License"] ++
  ["JavaScript","Python :: 2","Python :: 3"].map ("Programming Language :: " ++ ·) ++
  [""," :: Mathematics"," :: Artificial Intelligence"].map ("Topic :: Scientific/Engineering" ++ ·) ++
  [""," :: Libraries"," :: Libraries :: Python Modules"].map ("Topic :: Software Development" ++ ·)
def parts : Strings :=
  name :: below name ["version","quantization","read_weights","wizard","write_weights","converters"] ++
  below (name ++ ".converters") ["common","converter","fold_batch_norms","fuse_prelu","keras_h5_conversion",
    "keras_tfjs_loader","tf_saved_model_conversion_v2"]
def requirements : Strings :=
  [("h5py","2.8.0"),("keras","2.2.4"),("numpy","1.16.4"),("six","1.11.0"),("tensorflow","1.14.0"),
   ("tensorflow-hub","0.5.0"),("gast","0.2.2"),("PyInquirer","1.0.3")].map fun (p,v) => s!"{p}=={v}\n"
def programs : Strings :=
  [(name ++ "_converter",".converters.converter"),(name ++ "_wizard",".wizard")].map fun (program,place) =>
    program ++ " = " ++ name ++ place ++ ":pip_main"

def description : Json := .obj [
  ("name",name),("version",Convert.version),
  ("description","Python Libraries and Tools for TensorFlow.js"),
  ("url","https://js.tensorflow.org/"),("author","Google LLC"),
  ("author_email","opensource@google.com"),("classifiers",listed topics),("py_modules",listed parts),
  ("include_package_data",true),("packages",listed [operations]),
  ("package_data",.obj [(operations,listed ["*.json"])]),("install_requires",listed requirements),
  ("entry_points",.obj [("console_scripts",listed programs)]),("license","Apache 2.0"),
  ("keywords","tensorflow javascript machine deep learning converter")]
end TensorKit.Package
