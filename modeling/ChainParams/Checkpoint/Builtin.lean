import ChainParams.Checkpoint

/-!
# ChainParams — built-in checkpoints

The checkpoints of the public networks. A digest is given by its value, which is the
number that its text shows.
-/

namespace ChainParams.Checkpoints

/-- Checkpoints from heights and the values of digests. -/
def ofValues (table : List (UInt32 × Nat)) : Checkpoints :=
  ofList (table.map fun (height, value) => ⟨height, Digest.ofNat value⟩)

/-- The checkpoints of the main network. -/
def mainnet : Checkpoints := ofValues
  [(100, 0xc3d91cb4726610d422f8652a5a7cc21bd42e1b8009c00462081c81316d9abad6),
   (10000, 0x7b50ea3b42e613e65ec2aca6797a5780e1c545a617e4a610577fb4b040f0035b),
   (30000, 0x43e2fe7c700191ddfabe2cd09dfd3fc9eb6331f3c19e59b3e4a87cfa88cac543),
   (50000, 0x6a4f705b7a34de7dc1b6573b3595fde05c7b4303b35ede20a3b945244adc6c70),
   (69500, 0x8387b49853928fc67d8b8421fd9214184db590eeecd90a200c9d902d8b42e11f),
   (80000, 0xa7d7ac0b4b1f5eb56b50ad0693c47f47863b8df81f17514bcb5e59c0a4074eba),
   (91000, 0x3f135e0e06ae032de5437ae2b981e3ab84c7d22310224a6e53c6e6e769e8f8f0),
   (101000, 0xba5948ef9fce38887df24c54366121437d336bd67a4332508248def0032c5d6e),
   (111000, 0xbb9cc6e2d9da343774dc4b49be417731991b90ef53a7fa7eb669cce237223c37),
   (121000, 0x1d286956120cf256bed13bcc1f5fe79a98347c80f2225ded92bbbdfc1147b5f5),
   (136000, 0xb7c7416c40425bc7976c7b6b87734e2fb84855eecd30e3e9673caf8c7f599b5c),
   (153000, 0x9f31abd27721e7eb2b58c0a61a117c324a3a6b8f45c82e8963b1bd14166f6510),
   (161000, 0xf7a9069c705516f60878bf6da9bac02c12d0d8984cb90bce03fe34842ba7eb3d),
   (170000, 0x827d5ce5ed69153deacab9a2d3c35a7b33cdaa397a6a4a540d538b765182f234),
   (181000, 0x69fa48e8b9231f101df79c5b3174feb70bf6da11d88a4ce879a7c9ecb799f46d),
   (191000, 0x80a9ea6b375312c376de880b6958459973a95be1dcbf28db1731452a59ef9750),
   (200000, 0x3a4cb3bf206cfc23b9477e1c433280ae1b3393a21aa858aa322e8402204cd0),
   (220000, 0xbed97c09983d1ee14d5f925c31dc4245b6c9d66af4fdadcf973465cb265b52c3),
   (240000, 0xd4e782aae21f551d4a8d7756eb92dfa2cb23d1ede58162382b3bbced4fbee518),
   (260000, 0xdfaef016341fab642190a6656b6c52efbdb43ce8a590bace86793f3c1b1276be),
   (280000, 0x6b836125e431d3fd31ef55f5fbbdfdadc4d9b98b11db5ee0b7ac8f1f8c3ede32),
   (301000, 0xc557d7363393148a630a3fda46ca380a202fe82fa594c5e57f88fbece755bb05),
   (324000, 0x8f6cb33fd75e327eb1a1d90b13ba2124e077b4cc5240bc7ec8039aee8a345e85),
   (347000, 0xf4bd9894306981ca4c20cdbf0bbd9e9832696701f5b3d3a840d026b893db7337),
   (383000, 0xd902cf21480851c35844b0744ea72c1bc2d9318e87a7de63a5e3e3854331a39c),
   (401000, 0xe43417eb3b583fd28dfbfb38c65763d990b4c370066ac615a08c4c5c3910ebc9),
   (420000, 0x76e0de5adb117e12e85beb264c45e768e47d1720d72a49a24daab57493e07a04),
   (440000, 0xbbc6051554e936d0a18adddb95064b16a001ce164d061fb399f26416ce7860f9),
   (461000, 0xa60d67991b4963efee5b102c281755afde28803b9bc0b647f0cbc2120b35185b),
   (480000, 0xd88e6f5e77a8cb4bcb883168f357a94db31203f1977a15d90b6f6d4c2edebbbb),
   (500000, 0xa2989da9f8e785f7040c2e2dfc0177babbf736cfad9f2b401656fea4c3c7c9db),
   (510000, 0x7646ee1a99843f1e303d85e14c58dbf2bd65b393b273b379de14534743111b72),
   (520000, 0x114f6c2065ad5e668b901dd5ed5e9d302d6153f8e38381fbfd44485d7d499e10),
   (540000, 0xd7480699ff87574bfad0038b8697f9bc4df5f0cba31058a637eefbc94e402761),
   (600000, 0x85ac8dbbba7a870a45740677be5f35114cb3b70f56d1c93cc2aaf415629037e7),
   (700000, 0x450af2f828cdfb29be40d644d39a0858b29fe05b556946db31a7c365cffed705),
   (800001, 0xa6d915a25e905d1329e482aac91228b168de6e6efb3838df16c21c3ac3a82ea2),
   (900000, 0x7854a46edbdc4311006a9fd27ae601bb1ebd22fc5e8d6f1757e15237080a545b),
   (1000000, 0xec070022a4fe9b450e02edd08c6ed355047bc8e65ef05e881b51c212d7c0fe95),
   (1010001, 0xa2cb82b4ae04854108b18c502f1b33e18c6f69b9d4407e8aa205a23242cd4daf),
   (1050000, 0x3369fa16394aa222736793fd3fd50d7f7a34d5b1ff67b344eaba269daab28a68),
   (1060000, 0x44e3b2bfbfb9eef5ef34df447c9ea4c4912b8a3819c2c56dfd0dc02db8a84347),
   (1100000, 0x4173031420285636eeecfab94e4e62e3a3cf6e144b97b2cc3622c683e09102f0),
   (1394462, 0xef308b7f477903acd8f300e6f0684c4888ce28c491fc32c1c469bfba6abf091b),
   (1400000, 0x4bc57c3a57cc977db9f3bd6a095f51c0c7cc9c30fa8554505fa8f8e33d9f2b80),
   (1410000, 0x7512574ec717d46a90b8c36fd923ef819fdc298b8e4be57be631519662f0db59),
   (1573741, 0x6e4dacfd1684e71a178f29f3e9c714d264e6d385f64c31cdbe532b3204ce4e1d),
   (1574000, 0xcef389868efd7785b977eb86527e8049a2a5ea472a6ed9bfc0741c6d6b39234b),
   (1579000, 0x12cb8ae28107d99f4ba24465b9abf21f98fe855d9b09449cf5c8ed98120829c1),
   (1589000, 0x479746c27e323e233e58af6024bb7b9727a26bc0114c26ff537469e6ada105e1),
   (1600000, 0xf44cbdcb21fc7716947f763ccca5de5b02ffff7f14beafef0a7486067f6777fa),
   (1650000, 0x70caabb0720c95f67a02eabfde27253eaa8698dc6ea5716631890876b9df421a),
   (1700000, 0x691eb62d25a0961e81f1a8427b8c21e01ade5befe4a94be5826f49cfecc070a0),
   (1750000, 0x8971f1790e58c6de0ea2854872c6ad03752b65567ab8e5c8458ae4a6eb9fb783),
   (1766666, 0xffb7d30ec4d20cae926af05252dc39dbc433b068a0807a8f0dfa63521caca6f0),
   (1888888, 0x89530dba778db5a540aac6b7b8659cee8909ba445fa5a54ba3023e98e045692d),
   (1892222, 0x685a23cfa75e4e084f32b6a4ae09b3113c9509d84ce0559813627d462df6db88),
   (2227008, 0x23eb6ca0fc87c887485a1417364dae6c3ae5cc4801c6eef8fc2b6bb83cdf9013),
   (2242222, 0x98b01e772f0ca3b3ac875857e4f3b6571f8f18b8b896d0cb2feefeca90b69583),
   (2460000, 0x13dcc432b541f34539f0582ebad2ab045db399e58404385ee1e24b4713346a5b),
   (2856666, 0x57391a103bca1b54331c53ac81b9e5f588a359ca6a3068a53103c33d0f0e7ef)]

/-- The checkpoint of the test network, version 4. -/
def testnet4 : Checkpoints := ofValues
  [(0, 0x14b1da80b3d734d36a4a2be97ed2c9d49e79c47213d5bcc15b475a1115d28918)]

end ChainParams.Checkpoints
